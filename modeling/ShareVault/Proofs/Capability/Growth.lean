import ShareVault.Capability.Registry
import ShareVault.Proofs.Wire.Reader

/-! # The registry as it grows

    Capabilities are registered while a program runs. A registration adds a name that
    was not taken and is refused otherwise, so the capability that is found under a
    name stays the same from then on. What is made of known names does not depend on
    when it is made: the list of enabled capabilities and the unions over it are the
    same, bit by bit, in every later registry.

    ## Calls
    - `enroll`: the registry after one call to register;
    - `enrollAll`: the registry after some calls, accepted or refused.

    Main statements:
    - `growsTo_enrollAll`: calls let a registry grow by new names;
    - `GrowsTo.find?_eq`, `GrowsTo.enabled_eq`, `GrowsTo.union_eq`: and what is made of
      known names is then what it was.
-/

namespace ShareVault

namespace Registry

variable {r r' : Registry} {name : Text} {wanted : List Text}

/-! ## Calls to register -/

/-- The registry after a call to register a capability. -/
def enroll (r : Registry) (c : Capability) : Registry :=
  match r.register c with
  | .ok after => after
  | .error _ => r

/-- The registry after some calls to register, one after the other. -/
def enrollAll (r : Registry) : List Capability → Registry
  | [] => r
  | c :: cs => (r.enroll c).enrollAll cs

/-- A call is accepted exactly if the name is not taken. -/
theorem register_eq_ok {c : Capability} :
    r.register c = .ok r' ↔ c.name ∉ r.names ∧ r ++ [c] = r' := by
  unfold register
  by_cases htaken : c.name ∈ r.names
  · simp [htaken]
  · simp [htaken]

/-! ## Growth -/

/-- A later registry begins with the earlier one, and the rest has other names. -/
def GrowsTo (r r' : Registry) : Prop :=
  ∃ more : List Capability, r' = r ++ more ∧ ∀ c ∈ more, c.name ∉ r.names

theorem GrowsTo.refl (r : Registry) : r.GrowsTo r := by
  refine ⟨[], (List.append_nil r).symm, ?_⟩
  intro c hc
  cases hc

theorem GrowsTo.trans {r'' : Registry} (h : r.GrowsTo r') (h' : r'.GrowsTo r'') :
    r.GrowsTo r'' := by
  obtain ⟨more, rfl, hmore⟩ := h
  obtain ⟨rest, rfl, hrest⟩ := h'
  refine ⟨more ++ rest, List.append_assoc .., ?_⟩
  intro c hc hname
  rcases List.mem_append.mp hc with hfirst | hsecond
  · exact hmore c hfirst hname
  -- A name of the first registry is one of the second, too.
  · apply hrest c hsecond
    unfold names
    rw [List.map_append]
    exact List.mem_append_left _ hname

theorem growsTo_of_register {c : Capability} (h : r.register c = .ok r') : r.GrowsTo r' := by
  obtain ⟨hnew, rfl⟩ := register_eq_ok.mp h
  refine ⟨[c], rfl, ?_⟩
  intro other hother
  rw [List.mem_singleton.mp hother]
  exact hnew

/-- A refused call leaves the registry, and one that is accepted lets it grow. -/
theorem growsTo_enroll (r : Registry) (c : Capability) : r.GrowsTo (r.enroll c) := by
  unfold enroll
  cases h : r.register c with
  | error taken => exact .refl r
  | ok after => exact growsTo_of_register h

theorem growsTo_enrollAll (r : Registry) (cs : List Capability) : r.GrowsTo (r.enrollAll cs) := by
  induction cs generalizing r with
  | nil => exact .refl r
  | cons c cs ih => exact (r.growsTo_enroll c).trans (ih (r.enroll c))

theorem enrollAll_append (r : Registry) (calls more : List Capability) :
    r.enrollAll (calls ++ more) = (r.enrollAll calls).enrollAll more := by
  induction calls generalizing r with
  | nil => rfl
  | cons c calls ih => exact ih (r.enroll c)

/-! ## Known names -/

theorem find?_eq_none_iff : r.find? name = none ↔ name ∉ r.names := by
  unfold find? names
  rw [List.find?_eq_none, List.mem_map]
  constructor
  · intro h hname
    obtain ⟨c, hc, heq⟩ := hname
    exact h c hc (beq_iff_eq.mpr heq)
  · intro h c hc heq
    exact h ⟨c, hc, beq_iff_eq.mp heq⟩

theorem exists_find?_of_mem (h : name ∈ r.names) : ∃ c, r.find? name = some c := by
  cases hfind : r.find? name with
  | some c => exact ⟨c, rfl⟩
  | none => exact absurd h (find?_eq_none_iff.mp hfind)

theorem name_of_find? {c : Capability} (h : r.find? name = some c) : c.name = name := by
  unfold find? at h
  have hname := List.find?_some h
  exact beq_iff_eq.mp hname

theorem filter_names (r : Registry) (p : Text → Bool) :
    r.names.filter p = (r.filter fun c => p c.name).map Capability.name :=
  List.filter_map

/-- Names can be enabled exactly if all of them are known; only which names they are
    matters then. -/
theorem enabled_eq_ok {names : List Text} : r.enabled wanted = .ok names ↔
    (∀ name ∈ wanted, name ∈ r.names) ∧ r.names.filter (fun name => wanted.contains name) = names := by
  unfold enabled
  split
  · next name hname =>
    have hunknown := List.find?_some hname
    simp only [Bool.not_eq_true', List.contains_eq_mem, decide_eq_false_iff_not] at hunknown
    constructor
    · intro h
      cases h
    · intro h
      exact absurd (h.1 name (List.mem_of_find?_eq_some hname)) hunknown
  · next hnone =>
    simp only [List.find?_eq_none, Bool.not_eq_true, Bool.not_eq_false',
      List.contains_eq_mem, decide_eq_true_eq] at hnone
    rw [Except.ok.injEq, and_iff_right hnone]

/-- A list in normal form is left as it is. -/
theorem enabled_enabled {names : List Text} (h : r.enabled wanted = .ok names) :
    r.enabled names = .ok names := by
  obtain ⟨-, rfl⟩ := enabled_eq_ok.mp h
  refine enabled_eq_ok.mpr ⟨?_, ?_⟩
  · intro name hname
    exact (List.mem_filter.mp hname).1
  · apply List.filter_congr
    intro name hname
    rw [Bool.eq_iff_iff, List.contains_iff_mem, List.mem_filter, and_iff_right hname]

/-- The names that are enabled are the wanted ones. -/
theorem mem_of_enabled {names : List Text} (h : r.enabled wanted = .ok names) :
    name ∈ names ↔ name ∈ wanted := by
  obtain ⟨hknown, rfl⟩ := enabled_eq_ok.mp h
  rw [List.mem_filter, List.contains_iff_mem]
  constructor
  · intro hname
    exact hname.2
  · intro hname
    exact ⟨hknown name hname, hname⟩

/-- A family over known names is one over the payloads for their capabilities. -/
theorem union_eq_ok {f : Family} {u : TaggedUnion Message} (h : r.union f wanted = .ok u) :
    ∃ payload, r.payloadUnion f wanted = .ok payload ∧ u = f.union payload.decode := by
  obtain ⟨payload, hpayload, rfl⟩ := Except.map_eq_ok.mp h
  exact ⟨payload, hpayload, rfl⟩

/-- A family over names in normal form is the same as over the names as they are
    wanted. -/
theorem union_of_enabled (f : Family) {names : List Text} (h : r.enabled wanted = .ok names) :
    r.union f names = r.union f wanted := by
  unfold union payloadUnion
  rw [h, enabled_enabled h]

/-- A vault can say what it supports exactly if the names can be enabled and the version
    is one. -/
theorem standardInfo_eq_ok {version : Json} {info : StandardInfo} :
    r.standardInfo version wanted = .ok info ↔
      r.enabled wanted = .ok info.extensions ∧ Reader.word 16 version = .ok info.version := by
  unfold standardInfo
  rw [← Checked.under_eq_ok (s := .key "version")]
  cases r.enabled wanted with
  | error name => simp
  | ok names =>
    cases Checked.under (.key "version") (Reader.word 16 version) with
    | error issues => simp
    | ok n =>
      obtain ⟨v, extensions⟩ := info
      simp [and_comm]

theorem enabled_of_standardInfo {version : Json} {info : StandardInfo}
    (h : r.standardInfo version wanted = .ok info) : r.enabled wanted = .ok info.extensions :=
  (standardInfo_eq_ok.mp h).1

namespace GrowsTo

variable (h : r.GrowsTo r')

include h

theorem mem_names (hname : name ∈ r.names) : name ∈ r'.names := by
  obtain ⟨more, rfl, -⟩ := h
  unfold names
  rw [List.map_append]
  exact List.mem_append_left _ hname

theorem find?_eq (hname : name ∈ r.names) : r'.find? name = r.find? name := by
  obtain ⟨c, hc⟩ := exists_find?_of_mem hname
  obtain ⟨more, rfl, -⟩ := h
  have happend : Registry.find? (r ++ more) name = (r.find? name).or (Registry.find? more name) :=
    List.find?_append
  rw [happend, hc]
  rfl

/-- The capabilities with some known names are those they were. -/
theorem filter_eq {p : Text → Bool} (hp : ∀ name, p name = true → name ∈ r.names) :
    r'.filter (fun c => p c.name) = r.filter fun c => p c.name := by
  obtain ⟨more, rfl, hmore⟩ := h
  have hnone : more.filter (fun c => p c.name) = [] := by
    rw [List.filter_eq_nil_iff]
    intro c hc hkept
    exact hmore c hc (hp c.name hkept)
  rw [List.filter_append, hnone, List.append_nil]

/-- Known names that are wanted are listed as they were. -/
theorem filter_names_eq (hknown : ∀ name ∈ wanted, name ∈ r.names) :
    r'.names.filter wanted.contains = r.names.filter wanted.contains := by
  have hkept : ∀ name, wanted.contains name = true → name ∈ r.names := by
    intro name hname
    exact hknown name (List.contains_iff_mem.mp hname)
  rw [filter_names, filter_names, h.filter_eq hkept]

theorem enabled_eq (hknown : ∀ name ∈ wanted, name ∈ r.names) :
    r'.enabled wanted = r.enabled wanted := by
  have hbefore := enabled_eq_ok.mpr ⟨hknown, rfl⟩
  have hafter := enabled_eq_ok.mpr ⟨fun name hname => h.mem_names (hknown name hname), rfl⟩
  rw [hbefore, hafter, h.filter_names_eq hknown]

theorem payloadUnion_eq (f : Family) (hknown : ∀ name ∈ wanted, name ∈ r.names) :
    r'.payloadUnion f wanted = r.payloadUnion f wanted := by
  have hnames := enabled_eq_ok.mpr ⟨hknown, rfl⟩
  unfold payloadUnion
  rw [h.enabled_eq hknown, hnames]
  have hkept : ∀ name, (r.names.filter fun name => wanted.contains name).contains name = true →
      name ∈ r.names := by
    intro name hname
    exact (List.mem_filter.mp (List.contains_iff_mem.mp hname)).1
  simp only [Except.map, h.filter_eq hkept]

theorem union_eq (f : Family) (hknown : ∀ name ∈ wanted, name ∈ r.names) :
    r'.union f wanted = r.union f wanted := by
  unfold union
  rw [h.payloadUnion_eq f hknown]

end GrowsTo

end Registry

end ShareVault
