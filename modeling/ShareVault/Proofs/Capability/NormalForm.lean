import ShareVault.Proofs.Capability.Composition
import Mathlib.Data.List.Nodup

/-! # The normal form of capabilities

    A list of names says which capabilities are enabled. It may have them in any order
    and more than once. Its normal form has each of them once, in the order in which
    they were registered first, and everything that is made of the list is made of the
    normal form: the payloads of both families, and what a vault says about itself.

    Calls to register a name that is taken are refused and leave the registry, so the
    order of the first calls is the order of the registry.

    Main statements:
    - `names_enrollAll`: the names of a registry are those of the calls, without
      repetitions;
    - `isNormalForm_enabled`: what the normal form of a list is, and where it shows;
    - `enabled_normal_form`: both, and which lists have none.
-/

namespace ShareVault

namespace Registry

variable {r : Registry} {f : Family} {wanted names : List Text} {name : Text}
  {u : TaggedUnion Message}

/-! ## The order of registration -/

/-- The registry after some calls to register, accepted or refused, when nothing was
    registered before. -/
def ofCalls (calls : List Capability) : Registry := enrollAll [] calls

/-- The registry that is always there comes from two calls. -/
example : ofCalls [Capability.lockup, Capability.keeper] = standard := rfl

theorem enroll_of_mem {c : Capability} (h : c.name ∈ r.names) : r.enroll c = r := by
  unfold enroll register
  rw [if_pos (List.contains_iff_mem.mpr h)]

theorem enroll_of_not_mem {c : Capability} (h : c.name ∉ r.names) : r.enroll c = r ++ [c] := by
  unfold enroll
  rw [register_eq_ok.mpr ⟨h, rfl⟩]

/-- Names without repetitions stay so when a call names one more. -/
theorem names_enroll {given : List Text} (h : r.names = given.eraseDups) (c : Capability) :
    (r.enroll c).names = (given ++ [c.name]).eraseDups := by
  rw [List.eraseDups_append, ← h]
  by_cases htaken : c.name ∈ r.names
  · have hgiven : c.name ∈ given := by
      rw [h, List.mem_eraseDups] at htaken
      exact htaken
    have hnone : [c.name].removeAll given = [] := by simp [List.removeAll, hgiven]
    rw [enroll_of_mem htaken, hnone, List.eraseDups_nil, List.append_nil]
  · have hgiven : c.name ∉ given := by
      rw [h, List.mem_eraseDups] at htaken
      exact htaken
    have hone : [c.name].removeAll given = [c.name] := by simp [List.removeAll, hgiven]
    rw [enroll_of_not_mem htaken, hone]
    exact List.map_append

theorem names_enrollAll {given : List Text} (h : r.names = given.eraseDups)
    (calls : List Capability) :
    (r.enrollAll calls).names = (given ++ calls.map Capability.name).eraseDups := by
  induction calls generalizing r given with
  | nil =>
    rw [List.map_nil, List.append_nil]
    exact h
  | cons c calls ih =>
    rw [List.map_cons, List.append_cons]
    exact ih (names_enroll h c)

theorem names_ofCalls (calls : List Capability) :
    (ofCalls calls).names = (calls.map Capability.name).eraseDups := by
  have hempty : names [] = ([] : List Text).eraseDups := rfl
  exact names_enrollAll hempty calls

theorem nodup_names_enroll (h : r.names.Nodup) (c : Capability) : (r.enroll c).names.Nodup := by
  by_cases htaken : c.name ∈ r.names
  · rw [enroll_of_mem htaken]
    exact h
  · have hnames : (r ++ [c]).names = r.names ++ [c.name] := List.map_append
    rw [enroll_of_not_mem htaken, hnames]
    exact List.nodup_append_comm.mp (List.nodup_cons.mpr ⟨htaken, h⟩)

theorem nodup_names_enrollAll (h : r.names.Nodup) (calls : List Capability) :
    (r.enrollAll calls).names.Nodup := by
  induction calls generalizing r with
  | nil => exact h
  | cons c calls ih => exact ih (nodup_names_enroll h c)

theorem nodup_names_ofCalls (calls : List Capability) : (ofCalls calls).names.Nodup := by
  have hempty : (names []).Nodup := List.nodup_nil
  exact nodup_names_enrollAll hempty calls

/-! ## Normal forms -/

/-- A list has no normal form exactly if it has a name that is not known, and then the
    fault gives such a name. -/
theorem enabled_eq_error (h : r.enabled wanted = .error name) :
    name ∈ wanted ∧ name ∉ r.names := by
  unfold enabled at h
  split at h
  · next other hfind =>
    cases h
    have hunknown := List.find?_some hfind
    simp only [Bool.not_eq_true', List.contains_eq_mem, decide_eq_false_iff_not] at hunknown
    exact ⟨List.mem_of_find?_eq_some hfind, hunknown⟩
  · cases h

theorem exists_enabled_eq_error_iff :
    (∃ name, r.enabled wanted = .error name) ↔ ∃ name ∈ wanted, name ∉ r.names := by
  constructor
  · intro h
    obtain ⟨name, hname⟩ := h
    exact ⟨name, enabled_eq_error hname⟩
  · intro h
    obtain ⟨name, hwanted, hunknown⟩ := h
    cases henabled : r.enabled wanted with
    | error other => exact ⟨other, rfl⟩
    | ok names => exact absurd ((enabled_eq_ok.mp henabled).1 name hwanted) hunknown

/-- Lists of the same names have the same normal form. -/
theorem enabled_congr {other : List Text} (h : ∀ name, name ∈ other ↔ name ∈ wanted)
    (hnames : r.enabled wanted = .ok names) : r.enabled other = .ok names := by
  obtain ⟨hknown, rfl⟩ := enabled_eq_ok.mp hnames
  refine enabled_eq_ok.mpr ⟨fun name hname => hknown name ((h name).mp hname), ?_⟩
  apply List.filter_congr
  intro name _
  rw [Bool.eq_iff_iff, List.contains_iff_mem, List.contains_iff_mem, h]

/-- The tags of the payloads are the names in normal form. -/
theorem tags_payloadUnion (hnames : r.enabled wanted = .ok names) (f : Family) :
    ∃ u, r.payloadUnion f wanted = .ok u ∧ u.tags = names := by
  refine ⟨_, Except.map_eq_ok.mpr ⟨names, hnames, rfl⟩, ?_⟩
  obtain ⟨-, hagain⟩ := enabled_eq_ok.mp (enabled_enabled hnames)
  have hkeep : ∀ tags : List Text, tags.filter (fun tag => !([] : List Text).contains tag) = tags := by
    intro tags
    exact List.filter_eq_self.mpr fun _ _ => rfl
  show (((r.filter fun c => names.contains c.name).map (payloadMember f)).map Prod.fst).filter
    (fun tag => !([] : List Text).contains tag) = names
  rw [hkeep, List.map_map]
  show (r.filter fun c => names.contains c.name).map Capability.name = names
  rw [← filter_names r fun name => names.contains name, hagain]

/-- A list of names is the normal form of another, and shows wherever that is used. -/
structure IsNormalForm (r : Registry) (wanted names : List Text) : Prop where
  nodup : names.Nodup
  mem_iff : ∀ name, name ∈ names ↔ name ∈ wanted
  /-- The names are in the order of registration. -/
  sublist : names.Sublist r.names
  /-- Every list of the same names has this normal form. -/
  same : ∀ other, (∀ name, name ∈ other ↔ name ∈ wanted) → r.enabled other = .ok names
  /-- The normal form is its own. -/
  again : r.enabled names = .ok names
  /-- No later call to register changes it. -/
  later : ∀ calls, (r.enrollAll calls).enabled wanted = .ok names
  /-- The payloads of both families have these tags. -/
  tags : ∀ f, ∃ u, r.payloadUnion f wanted = .ok u ∧ u.tags = names
  /-- A vault of any version says that these are its extensions. -/
  info : ∀ version : Nat, version < twoTo 16 →
    r.standardInfo (.int version) wanted = .ok ⟨version, names⟩

theorem isNormalForm_enabled (hnodup : r.names.Nodup) (hnames : r.enabled wanted = .ok names) :
    r.IsNormalForm wanted names := by
  obtain ⟨hknown, hfilter⟩ := enabled_eq_ok.mp hnames
  have hsublist : names.Sublist r.names := by
    rw [← hfilter]
    exact List.filter_sublist
  refine ⟨hnodup.sublist hsublist, ?_, hsublist, ?_, enabled_enabled hnames, ?_, ?_, ?_⟩
  · intro name
    exact mem_of_enabled hnames
  · intro other hother
    exact enabled_congr hother hnames
  · intro calls
    rw [(r.growsTo_enrollAll calls).enabled_eq hknown]
    exact hnames
  · intro f
    exact tags_payloadUnion hnames f
  · intro version hversion
    exact standardInfo_eq_ok.mpr ⟨hnames, Reader.word_eq_ok.mpr ⟨rfl, hversion⟩⟩

/-- After any calls to register, the names are known in the order of the first calls for
    them. A list of names has no normal form exactly if one of them is not known, which
    the fault says of one that is not. Otherwise it has one, which is that of all lists
    of the same names, now and later, and shows in everything that is made of them. -/
theorem enabled_normal_form (calls : List Capability) (wanted : List Text) :
    (ofCalls calls).names = (calls.map Capability.name).eraseDups
    ∧ (∀ c, c.name ∈ (ofCalls calls).names → ofCalls (calls ++ [c]) = ofCalls calls)
    ∧ (∀ name, (ofCalls calls).enabled wanted = .error name →
      name ∈ wanted ∧ name ∉ (ofCalls calls).names)
    ∧ ((∃ name, (ofCalls calls).enabled wanted = .error name)
      ↔ ∃ name ∈ wanted, name ∉ (ofCalls calls).names)
    ∧ ∀ names, (ofCalls calls).enabled wanted = .ok names →
      (ofCalls calls).IsNormalForm wanted names := by
  refine ⟨names_ofCalls calls, ?_, ?_, exists_enabled_eq_error_iff, ?_⟩
  · intro c hc
    have happend : ofCalls (calls ++ [c]) = (ofCalls calls).enroll c := by
      unfold ofCalls
      rw [enrollAll_append]
      rfl
    rw [happend, enroll_of_mem hc]
  · intro name hname
    exact enabled_eq_error hname
  · intro names hnames
    exact isNormalForm_enabled (nodup_names_ofCalls calls) hnames

/-- Calls of which the third one is refused. -/
def pauseCalls : List Capability :=
  [Capability.lockup, Capability.keeper, Capability.lockup, pauseCapability]

/-- The names that are known after the calls, the normal form of a list with one of them
    twice, and a list that has none. -/
theorem enabled_normal_form_pause :
    (ofCalls pauseCalls).names = ["lockup", "keeper", "pause"]
    ∧ ofCalls (pauseCalls ++ [Capability.keeper]) = ofCalls pauseCalls
    ∧ (ofCalls pauseCalls).enabled ["pause", "lockup", "pause"] = .ok ["lockup", "pause"]
    ∧ (ofCalls pauseCalls).IsNormalForm ["pause", "lockup", "pause"] ["lockup", "pause"]
    ∧ (ofCalls pauseCalls).enabled ["lockup", "ibc"] = .error "ibc"
    ∧ ∃ name ∈ (["lockup", "ibc"] : List Text), name ∉ (ofCalls pauseCalls).names := by
  have hpause : (ofCalls pauseCalls).enabled ["pause", "lockup", "pause"]
      = .ok ["lockup", "pause"] := rfl
  have hibc : (ofCalls pauseCalls).enabled ["lockup", "ibc"] = .error "ibc" := rfl
  obtain ⟨hnames, hrefused, -, -, hnormal⟩ :=
    enabled_normal_form pauseCalls ["pause", "lockup", "pause"]
  obtain ⟨-, -, -, hunknown, -⟩ := enabled_normal_form pauseCalls ["lockup", "ibc"]
  refine ⟨hnames, ?_, hpause, hnormal _ hpause, hibc, hunknown.mp ⟨"ibc", hibc⟩⟩
  apply hrefused
  rw [hnames]
  decide

end Registry

end ShareVault
