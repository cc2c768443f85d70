import ShareVault.Proofs.Wire.Table
import ShareVault.Token
import Mathlib.Data.List.Nodup

/-! # What a tag is bound to

    A table is filled in three ways: by the members that a union is built of, by its
    aliases, and by what is added to it later. Each of them binds tags one after the
    other, and a tag that is bound already is refused. So a tag is bound once, and
    from then on it decodes what it decoded.

    ## Calls
    - `extend`: the union after one call to add;
    - `extendAll`: the union after some calls, accepted or refused;
    - `accepted`: the tags of the calls that were accepted.

    Main statements:
    - `build_eq_error`: a union cannot be built because of the first tag in order that
      cannot be bound;
    - `find?_extendAll`: after all calls a tag has the decoder that came first;
    - `tags_bound_once`: both, with what is listed and what is refused.
-/

namespace ShareVault.TaggedUnion

variable {α : Type} {u v : TaggedUnion α} {tag name target union : Text} {d : Decoder α}
  {members calls : List (Text × Decoder α)} {aliases : List (Text × Text)} {f : UnionFault}

/-! ## Bound tags -/

/-- The tags that are bound, listed or not. -/
def bound (u : TaggedUnion α) : List Text := u.decoders.map Prod.fst

theorem contains_iff_mem_bound : u.contains tag = true ↔ tag ∈ u.bound := by
  unfold bound
  rw [contains_iff, List.mem_map]
  constructor
  · intro h
    obtain ⟨e, he⟩ := h
    exact ⟨(tag, e), he, rfl⟩
  · intro h
    obtain ⟨⟨t, e⟩, he, ht⟩ := h
    subst ht
    exact ⟨e, he⟩

theorem not_contains_iff_not_mem_bound : u.contains tag = false ↔ tag ∉ u.bound := by
  rw [← contains_iff_mem_bound, Bool.not_eq_true]

theorem find?_eq_none_iff : u.find? tag = none ↔ tag ∉ u.bound := by
  unfold find? bound
  rw [List.lookup_eq_none_iff, List.mem_map]
  constructor
  · intro h hmem
    obtain ⟨p, hp, heq⟩ := hmem
    have hne := h p hp
    rw [heq, bne_self_eq_false] at hne
    cases hne
  · intro h p hp
    rw [bne_iff_ne]
    intro heq
    exact h ⟨p, hp, heq.symm⟩

theorem mem_bound_of_find? (h : u.find? tag = some d) : tag ∈ u.bound := by
  by_contra hnone
  rw [find?_eq_none_iff.mpr hnone] at h
  cases h

theorem exists_find?_of_mem_bound (h : tag ∈ u.bound) : ∃ d, u.find? tag = some d := by
  cases hfind : u.find? tag with
  | some d => exact ⟨d, rfl⟩
  | none => exact absurd h (find?_eq_none_iff.mp hfind)

theorem bound_add (h : u.add tag d = .ok v) : v.bound = u.bound ++ [tag] := by
  obtain ⟨-, rfl⟩ := add_eq_ok.mp h
  unfold bound
  rw [List.map_append]
  rfl

/-- No tag is bound twice, and a further one is new. -/
theorem nodup_bound_add (hu : u.bound.Nodup) (h : u.add tag d = .ok v) : v.bound.Nodup := by
  have hnew := not_contains_iff_not_mem_bound.mp (add_eq_ok.mp h).1
  rw [bound_add h, List.nodup_append]
  refine ⟨hu, List.nodup_singleton tag, ?_⟩
  intro t ht t' ht' heq
  rw [heq, List.mem_singleton.mp ht'] at ht
  exact hnew ht

/-! ## Tags that cannot be bound -/

/-- A tag to be bound: that of a member, or an alias with its target. -/
structure Entry where
  tag : Text
  target : Option Text

/-- The tags that a union is built of, in the order in which they are bound. -/
def entries (members : List (Text × Decoder α)) (aliases : List (Text × Text)) : List Entry :=
  members.map (fun p => ⟨p.1, none⟩) ++ aliases.map fun a => ⟨a.1, some a.2⟩

/-- Why a tag cannot be bound when some are: it is taken, or its target is not there.
    The target is looked for first. -/
inductive Obstructs (union : Text) (bound : List Text) : Entry → UnionFault → Prop where
  | unbound {tag target : Text} (hnone : target ∉ bound) :
    Obstructs union bound ⟨tag, some target⟩ (.unboundTarget target)
  | taken {e : Entry} (htarget : ∀ target, e.target = some target → target ∈ bound)
      (htaken : e.tag ∈ bound) :
    Obstructs union bound e (.duplicateTag union e.tag)

/-- Of the tags that are bound in turn, the first one that cannot be has this fault. -/
inductive FirstObstructed (union : Text) : List Text → List Entry → UnionFault → Prop where
  | here {bound : List Text} {e : Entry} {rest : List Entry} {f : UnionFault}
      (h : Obstructs union bound e f) : FirstObstructed union bound (e :: rest) f
  | later {bound : List Text} {e : Entry} {rest : List Entry} {f : UnionFault}
      (hfree : ∀ g, ¬ Obstructs union bound e g)
      (h : FirstObstructed union (bound ++ [e.tag]) rest f) :
    FirstObstructed union bound (e :: rest) f

theorem firstObstructed_cons {bound : List Text} {e : Entry} {rest : List Entry} :
    FirstObstructed union bound (e :: rest) f ↔ Obstructs union bound e f
      ∨ (∀ g, ¬ Obstructs union bound e g) ∧ FirstObstructed union (bound ++ [e.tag]) rest f := by
  constructor
  · intro h
    cases h with
    | here h => exact .inl h
    | later hfree h => exact .inr ⟨hfree, h⟩
  · intro h
    rcases h with h | ⟨hfree, h⟩
    · exact .here h
    · exact .later hfree h

theorem not_firstObstructed_nil {bound : List Text} : ¬ FirstObstructed union bound [] f := by
  intro h
  cases h

/-- The first obstruction is among the first tags, or they are free and it comes later. -/
theorem firstObstructed_append {bound : List Text} {first rest : List Entry} :
    FirstObstructed union bound (first ++ rest) f ↔ FirstObstructed union bound first f
      ∨ (∀ g, ¬ FirstObstructed union bound first g)
        ∧ FirstObstructed union (bound ++ first.map Entry.tag) rest f := by
  induction first generalizing bound with
  | nil =>
    rw [List.map_nil, List.append_nil, List.nil_append]
    simp only [not_firstObstructed_nil, not_false_eq_true, implies_true, true_and, false_or]
  | cons e first ih =>
    have hbound : bound ++ (e :: first).map Entry.tag
        = bound ++ [e.tag] ++ first.map Entry.tag := by simp
    rw [List.cons_append, firstObstructed_cons, firstObstructed_cons, ih, hbound]
    simp only [firstObstructed_cons]
    by_cases hfree : ∀ g, ¬ Obstructs union bound e g
    · simp only [hfree, implies_true, not_false_eq_true, true_and, false_or]
    -- If the first tag itself is obstructed, nothing that comes later matters.
    · simp only [hfree, false_and, or_false]

theorem add_eq_error : u.add tag d = .error f ↔ Obstructs u.name u.bound ⟨tag, none⟩ f := by
  unfold add
  constructor
  · intro h
    split at h
    · next htaken =>
      cases h
      exact .taken (fun target htarget => nomatch htarget) (contains_iff_mem_bound.mp htaken)
    · cases h
  · intro h
    cases h with
    | taken _ htaken => rw [if_pos (contains_iff_mem_bound.mpr htaken)]

theorem addAlias_eq_ok : u.addAlias name target = .ok v ↔
    ∃ d w, u.find? target = some d ∧ u.add name d = .ok w
      ∧ { w with aliases := w.aliases ++ [name] } = v := by
  unfold addAlias
  cases u.find? target with
  | none => simp
  | some d =>
    cases h : u.add name d with
    | error e => simp [h]
    | ok w => simp [h]

theorem addAlias_eq_error :
    u.addAlias name target = .error f ↔ Obstructs u.name u.bound ⟨name, some target⟩ f := by
  unfold addAlias
  cases htarget : u.find? target with
  | none =>
    have hnone := find?_eq_none_iff.mp htarget
    constructor
    · intro h
      cases h
      exact .unbound hnone
    · intro h
      cases h with
      | unbound => rfl
      | taken hbound _ => exact absurd (hbound target rfl) hnone
  | some d =>
    have hbound : target ∈ u.bound := mem_bound_of_find? htarget
    have hsame : Obstructs u.name u.bound ⟨name, some target⟩ f
        ↔ Obstructs u.name u.bound ⟨name, none⟩ f := by
      constructor
      · intro h
        cases h with
        | unbound hnone => exact absurd hbound hnone
        | taken _ htaken => exact .taken (fun _ h => nomatch h) htaken
      · intro h
        cases h with
        | taken _ htaken => exact .taken (fun _ h => Option.some.inj h ▸ hbound) htaken
    rw [hsame, ← add_eq_error (d := d)]
    cases h : u.add name d with
    | error e => simp [h]
    | ok w => simp [h]

theorem addAll_eq_error : u.addAll members = .error f ↔
    FirstObstructed u.name u.bound (entries members []) f := by
  unfold entries
  rw [List.map_nil, List.append_nil]
  induction members generalizing u with
  | nil => simp [addAll, not_firstObstructed_nil]
  | cons p members ih =>
    obtain ⟨tag, d⟩ := p
    rw [List.map_cons, firstObstructed_cons, ← add_eq_error (d := d)]
    simp only [← add_eq_error (d := d)]
    unfold addAll
    cases h : u.add tag d with
    | error e => simp
    | ok v =>
      have hname : v.name = u.name := by
        obtain ⟨-, rfl⟩ := add_eq_ok.mp h
        rfl
      simp only [reduceCtorEq, false_or, not_false_eq_true, implies_true, true_and]
      rw [ih, hname, bound_add h]

theorem addAliases_eq_error : u.addAliases aliases = .error f ↔
    FirstObstructed u.name u.bound (aliases.map fun a => ⟨a.1, some a.2⟩) f := by
  induction aliases generalizing u with
  | nil => simp [addAliases, not_firstObstructed_nil]
  | cons a aliases ih =>
    obtain ⟨name, target⟩ := a
    rw [List.map_cons, firstObstructed_cons, ← addAlias_eq_error]
    simp only [← addAlias_eq_error]
    unfold addAliases
    cases h : u.addAlias name target with
    | error e => simp
    | ok v =>
      obtain ⟨d, w, -, hadd, hv⟩ := addAlias_eq_ok.mp h
      have hname : v.name = u.name := by
        obtain ⟨-, hw⟩ := add_eq_ok.mp hadd
        rw [← hv, ← hw]
      have hbound : v.bound = u.bound ++ [name] := by
        rw [← bound_add hadd, ← hv]
        rfl
      simp only [reduceCtorEq, false_or, not_false_eq_true, implies_true, true_and]
      rw [ih, hname, hbound]

theorem addAll_eq (h : u.addAll members = .ok v) :
    v = { u with decoders := u.decoders ++ members } := by
  induction members generalizing u with
  | nil =>
    cases h
    rw [List.append_nil]
  | cons p members ih =>
    obtain ⟨tag, d⟩ := p
    unfold addAll at h
    split at h
    · cases h
    · next w hw =>
      obtain ⟨-, rfl⟩ := add_eq_ok.mp hw
      rw [List.append_cons, ih h]

/-- Whether a union can be built depends on its tags and targets alone, and they are
    looked at in the order in which they are given. -/
theorem build_eq_error {base : Base} : build name base members aliases = .error f ↔
    FirstObstructed name [] (entries members aliases) f := by
  have hsplit : entries members aliases
      = entries members [] ++ aliases.map fun a => ⟨a.1, some a.2⟩ := by
    unfold entries
    rw [List.map_nil, List.append_nil]
  have hmembers : ∀ g, (empty name base : TaggedUnion α).addAll members = .error g
      ↔ FirstObstructed name [] (entries members []) g := fun g => addAll_eq_error
  rw [hsplit, firstObstructed_append, ← hmembers]
  simp only [← hmembers]
  unfold build
  cases h : (empty name base : TaggedUnion α).addAll members with
  | error e => simp
  | ok u =>
    have hu := addAll_eq h
    have hbound : u.bound = (entries members []).map Entry.tag := by
      rw [hu]
      unfold bound entries empty
      simp
    have hname : u.name = name := by rw [hu, empty]
    simp only [reduceCtorEq, false_or, not_false_eq_true, implies_true, true_and,
      List.nil_append]
    rw [addAliases_eq_error, hname, hbound]

/-! ## What is bound -/

/-- The bindings after those of some aliases: an alias is bound to what its target is
    bound to by then. -/
def bindings (given : List (Text × Decoder α)) : List (Text × Text) → List (Text × Decoder α)
  | [] => given
  | (name, target) :: aliases =>
    match given.lookup target with
    | some d => bindings (given ++ [(name, d)]) aliases
    | none => bindings given aliases

/-- Aliases that can be added add their bindings, and nothing else changes. -/
theorem addAliases_eq (h : u.addAliases aliases = .ok v) :
    v = { u with decoders := bindings u.decoders aliases
                 aliases := u.aliases ++ aliases.map Prod.fst } := by
  induction aliases generalizing u with
  | nil =>
    cases h
    rw [List.map_nil, List.append_nil]
    rfl
  | cons a aliases ih =>
    obtain ⟨name, target⟩ := a
    unfold addAliases at h
    split at h
    · cases h
    · next x hx =>
      obtain ⟨d, w, hd, hadd, rfl⟩ := addAlias_eq_ok.mp hx
      obtain ⟨-, rfl⟩ := add_eq_ok.mp hadd
      have hbindings : bindings u.decoders ((name, target) :: aliases)
          = bindings (u.decoders ++ [(name, d)]) aliases := by
        have hlookup : u.decoders.lookup target = some d := hd
        rw [bindings, hlookup]
      have haliases : u.aliases ++ ((name, target) :: aliases).map Prod.fst
          = u.aliases ++ [name] ++ aliases.map Prod.fst := by simp
      rw [hbindings, haliases]
      exact ih h

/-- What members keep one by one they keep together. -/
theorem addAll_keeps {p : TaggedUnion α → Prop}
    (hstep : ∀ {x y tag d}, p x → x.add tag d = .ok y → p y) (hu : p u)
    (h : u.addAll members = .ok v) : p v := by
  induction members generalizing u with
  | nil =>
    cases h
    exact hu
  | cons q members ih =>
    obtain ⟨tag, d⟩ := q
    unfold addAll at h
    split at h
    · cases h
    · next w hw => exact ih (hstep hu hw) h

/-- What aliases keep one by one they keep together. An alias adds a tag and is noted;
    what is noted does not matter to what is bound. -/
theorem addAliases_keeps {p : TaggedUnion α → Prop}
    (hstep : ∀ {x y tag d}, p x → x.add tag d = .ok y → p y)
    (hnoted : ∀ {x names}, p x → p { x with aliases := names }) (hu : p u)
    (h : u.addAliases aliases = .ok v) : p v := by
  induction aliases generalizing u with
  | nil =>
    cases h
    exact hu
  | cons a aliases ih =>
    obtain ⟨name, target⟩ := a
    unfold addAliases at h
    split at h
    · cases h
    · next x hx =>
      obtain ⟨_, w, -, hadd, rfl⟩ := addAlias_eq_ok.mp hx
      exact ih (hnoted (hstep hu hadd)) h

theorem find?_addAliases_of_find? (h : u.addAliases aliases = .ok v)
    (hfound : u.find? tag = some d) : v.find? tag = some d :=
  addAliases_keeps (p := fun x => x.find? tag = some d)
    (fun hx hadd => find?_add_of_find? hadd hx) id hfound h

/-- The aliases are bound after the tags that were there. -/
theorem bound_addAliases (h : u.addAliases aliases = .ok v) :
    v.bound = u.bound ++ aliases.map Prod.fst := by
  induction aliases generalizing u with
  | nil =>
    cases h
    rw [List.map_nil, List.append_nil]
  | cons a aliases ih =>
    obtain ⟨name, target⟩ := a
    unfold addAliases at h
    split at h
    · cases h
    · next x hx =>
      obtain ⟨d, w, -, hadd, rfl⟩ := addAlias_eq_ok.mp hx
      rw [List.map_cons, List.append_cons, ← bound_add hadd]
      exact ih (u := { w with aliases := w.aliases ++ [name] }) h

/-- An alias is found as its target is. -/
theorem find?_addAliases (h : u.addAliases aliases = .ok v) {a : Text × Text} (ha : a ∈ aliases) :
    ∃ d, v.find? a.1 = some d ∧ v.find? a.2 = some d := by
  induction aliases generalizing u with
  | nil => cases ha
  | cons b aliases ih =>
    obtain ⟨name, target⟩ := b
    unfold addAliases at h
    split at h
    · cases h
    · next x hx =>
      rcases List.mem_cons.mp ha with rfl | hrest
      · obtain ⟨d, w, hd, hadd, rfl⟩ := addAlias_eq_ok.mp hx
        have hname : w.find? name = some d := find?_add_self hadd
        have htarget := find?_add_of_find? hadd hd
        exact ⟨d, find?_addAliases_of_find? h hname, find?_addAliases_of_find? h htarget⟩
      · exact ih h hrest

/-- A union that can be built has what its members and aliases bind, and the fault of
    malformed values for all other tags. -/
theorem build_frame {base : Base} (h : build name base members aliases = .ok u) :
    u.name = name ∧ u.decoders = bindings members aliases ∧ u.aliases = aliases.map Prod.fst
      ∧ u.unknown = fun tag => .malformed (.unknownVariant name tag) := by
  unfold build at h
  split at h
  · cases h
  · next w hw =>
    rw [addAliases_eq h, addAll_eq hw]
    exact ⟨rfl, rfl, rfl, rfl⟩

theorem bound_build {base : Base} (h : build name base members aliases = .ok u) :
    u.bound = members.map Prod.fst ++ aliases.map Prod.fst ∧ u.bound.Nodup := by
  unfold build at h
  split at h
  · cases h
  · next w hw =>
    have hempty : (empty name base : TaggedUnion α).bound.Nodup := List.nodup_nil
    have hnodup : w.bound.Nodup :=
      addAll_keeps (p := fun x => x.bound.Nodup) nodup_bound_add hempty hw
    refine ⟨?_, addAliases_keeps (p := fun x => x.bound.Nodup) nodup_bound_add id hnodup h⟩
    rw [bound_addAliases h, addAll_eq hw]
    rfl

theorem find?_build_alias {base : Base} (h : build name base members aliases = .ok u)
    {a : Text × Text} (ha : a ∈ aliases) : ∃ d, u.find? a.1 = some d ∧ u.find? a.2 = some d := by
  unfold build at h
  split at h
  · cases h
  · exact find?_addAliases h ha

/-! ## Later additions -/

/-- The union after a call to add a tag. -/
def extend (u : TaggedUnion α) (tag : Text) (d : Decoder α) : TaggedUnion α :=
  match u.add tag d with
  | .ok v => v
  | .error _ => u

/-- The union after some calls to add tags, one after the other. -/
def extendAll (u : TaggedUnion α) : List (Text × Decoder α) → TaggedUnion α
  | [] => u
  | (tag, d) :: calls => (u.extend tag d).extendAll calls

/-- The tags of the calls that are accepted. -/
def accepted (u : TaggedUnion α) : List (Text × Decoder α) → List Text
  | [] => []
  | (tag, d) :: calls =>
    match u.add tag d with
    | .ok v => tag :: v.accepted calls
    | .error _ => u.accepted calls

theorem add_of_contains (h : u.contains tag = true) (d : Decoder α) :
    u.add tag d = .error (.duplicateTag u.name tag) := by
  unfold add
  rw [if_pos h]

theorem extend_of_contains (h : u.contains tag = true) (d : Decoder α) : u.extend tag d = u := by
  unfold extend
  rw [add_of_contains h]

theorem extend_of_add (h : u.add tag d = .ok v) : u.extend tag d = v := by
  unfold extend
  rw [h]

theorem add_of_not_contains (h : u.contains tag = false) (d : Decoder α) :
    u.add tag d = .ok (u.extend tag d) := by
  have hadd : u.add tag d = .ok _ := add_eq_ok.mpr ⟨h, rfl⟩
  rw [extend_of_add hadd]
  exact hadd

/-- A refused call leaves the table, so what accepted calls keep all calls keep. -/
theorem extendAll_keeps {p : TaggedUnion α → Prop}
    (hstep : ∀ {x y tag d}, p x → x.add tag d = .ok y → p y) (hu : p u)
    (calls : List (Text × Decoder α)) : p (u.extendAll calls) := by
  induction calls generalizing u with
  | nil => exact hu
  | cons q calls ih =>
    obtain ⟨tag, d⟩ := q
    apply ih
    unfold extend
    split
    · next v hv => exact hstep hu hv
    · exact hu

/-- The calls that are accepted bind their tags in order. -/
theorem bound_extendAll (u : TaggedUnion α) (calls : List (Text × Decoder α)) :
    (u.extendAll calls).bound = u.bound ++ u.accepted calls := by
  induction calls generalizing u with
  | nil => exact (List.append_nil u.bound).symm
  | cons q calls ih =>
    obtain ⟨tag, d⟩ := q
    unfold extendAll accepted
    rw [ih]
    unfold extend
    cases h : u.add tag d with
    | error e => rfl
    | ok v => rw [bound_add h, List.append_assoc, List.singleton_append]

/-- After some calls a tag has the decoder that was bound to it first: a call for a tag
    that is bound comes too late. -/
theorem find?_extendAll (u : TaggedUnion α) (calls : List (Text × Decoder α)) (tag : Text) :
    (u.extendAll calls).find? tag = (u.decoders ++ calls).lookup tag := by
  induction calls generalizing u with
  | nil =>
    rw [List.append_nil]
    rfl
  | cons q calls ih =>
    obtain ⟨t, d⟩ := q
    unfold extendAll
    rw [ih, List.append_cons, List.lookup_append, List.lookup_append]
    congr 1
    unfold extend
    cases h : u.add t d with
    | ok v =>
      obtain ⟨-, rfl⟩ := add_eq_ok.mp h
      rfl
    -- The tag is bound, so it is found before the end.
    | error e =>
      have htaken : u.contains t = true := by
        by_contra hnew
        rw [add_of_not_contains (Bool.eq_false_iff.mpr hnew)] at h
        cases h
      rw [List.lookup_append]
      by_cases heq : tag = t
      · subst heq
        obtain ⟨e', he'⟩ := exists_find?_of_mem_bound (contains_iff_mem_bound.mp htaken)
        have hlookup : u.decoders.lookup tag = some e' := he'
        rw [hlookup]
        rfl
      · have hskip : (tag == t) = false := beq_eq_false_iff_ne.mpr heq
        rw [List.lookup_cons, hskip]
        simp

/-- Calls to add change neither the name nor the aliases nor the fault of other tags. -/
theorem extendAll_frame (u : TaggedUnion α) (calls : List (Text × Decoder α)) :
    (u.extendAll calls).name = u.name ∧ (u.extendAll calls).aliases = u.aliases
      ∧ (u.extendAll calls).unknown = u.unknown := by
  apply extendAll_keeps (p := fun x => x.name = u.name ∧ x.aliases = u.aliases
    ∧ x.unknown = u.unknown) ?_ ⟨rfl, rfl, rfl⟩
  intro x y tag d hx hadd
  obtain ⟨-, rfl⟩ := add_eq_ok.mp hadd
  exact hx

theorem decode_of_none (h : u.find? tag = none) (payload : Json) :
    u.decode (.object [(tag, payload)]) = .error (u.unknown tag) := by
  simp only [decode, h]

/-- Whatever is added, a tag that is bound decodes what it decoded. -/
theorem decode_extendAll (h : tag ∈ u.bound) (calls : List (Text × Decoder α)) (payload : Json) :
    (u.extendAll calls).decode (.object [(tag, payload)]) = u.decode (.object [(tag, payload)]) := by
  obtain ⟨d, hd⟩ := exists_find?_of_mem_bound h
  have hkept : (u.extendAll calls).find? tag = some d :=
    extendAll_keeps (p := fun x => x.find? tag = some d)
      (fun hx hadd => find?_add_of_find? hadd hx) hd calls
  rw [decode_singleton hd, decode_singleton hkept]

/-- The tags that are listed are those that are bound, without the aliases among them. -/
theorem tags_eq {listed hidden more : List Text} (hu : u.bound = listed ++ hidden ++ more)
    (hnodup : u.bound.Nodup) (haliases : u.aliases = hidden) : u.tags = listed ++ more := by
  rw [hu] at hnodup
  obtain ⟨hfirst, -, hrest⟩ := List.nodup_append.mp hnodup
  obtain ⟨-, -, hlisted⟩ := List.nodup_append.mp hfirst
  have hkeep : ∀ t ∈ listed, (!hidden.contains t) = true := by
    intro t ht
    simp only [List.contains_eq_mem, Bool.not_eq_true', decide_eq_false_iff_not]
    intro halias
    exact hlisted t ht t halias rfl
  have hdrop : ∀ t ∈ hidden, ¬ (!hidden.contains t) = true := by
    intro t ht
    simp [ht]
  have hnew : ∀ t ∈ more, (!hidden.contains t) = true := by
    intro t ht
    simp only [List.contains_eq_mem, Bool.not_eq_true', decide_eq_false_iff_not]
    intro halias
    exact hrest t (List.mem_append_right listed halias) t ht rfl
  show u.bound.filter (fun t => !u.aliases.contains t) = _
  rw [hu, haliases, List.filter_append, List.filter_append, List.filter_eq_self.mpr hkeep,
    List.filter_eq_nil_iff.mpr hdrop, List.filter_eq_self.mpr hnew, List.append_nil]

/-! ## Tables -/

/-- A table that some members, aliases and calls have filled, of which the calls for
    the tags `added` were accepted. -/
structure IsFilledBy (u : TaggedUnion α) (name : Text) (members : List (Text × Decoder α))
    (aliases : List (Text × Text)) (calls : List (Text × Decoder α)) (added : List Text) :
    Prop where
  /-- The tags are those of the members and of the calls that were accepted, in order. -/
  tags : u.tags = members.map Prod.fst ++ added
  nodup : u.tags.Nodup
  /-- A tag that is known is listed or an alias, and not both. -/
  contains_iff : ∀ tag, u.contains tag = true ↔ tag ∈ u.tags ∨ tag ∈ aliases.map Prod.fst
  not_alias : ∀ tag ∈ u.tags, tag ∉ aliases.map Prod.fst
  /-- A call for a known tag is refused and changes nothing; any other is accepted. -/
  refused : ∀ tag d, u.contains tag = true →
    u.add tag d = .error (.duplicateTag name tag) ∧ u.extend tag d = u
  accepted : ∀ tag d, u.contains tag = false → u.add tag d = .ok (u.extend tag d)
  /-- A tag decodes as the decoder says that was bound to it first. -/
  decode : ∀ tag payload, u.decode (.object [(tag, payload)])
    = match (bindings members aliases ++ calls).lookup tag with
      | some d => d payload
      | none => .error (.malformed (.unknownVariant name tag))
  /-- An alias decodes as its target does. -/
  decode_alias : ∀ a ∈ aliases, ∀ payload,
    u.decode (.object [(a.1, payload)]) = u.decode (.object [(a.2, payload)])
  /-- No later call changes what a known tag decodes. -/
  decode_later : ∀ more tag payload, u.contains tag = true →
    (u.extendAll more).decode (.object [(tag, payload)]) = u.decode (.object [(tag, payload)])

theorem isFilledBy_extendAll {base : Base} (h : build name base members aliases = .ok u)
    (calls : List (Text × Decoder α)) :
    (u.extendAll calls).IsFilledBy name members aliases calls (u.accepted calls) := by
  obtain ⟨hbound, hnodup⟩ := bound_build h
  obtain ⟨hbuiltName, hdecoders, hbuiltAliases, hbuiltUnknown⟩ := build_frame h
  obtain ⟨hname, haliases, hunknown⟩ := u.extendAll_frame calls
  have hall := u.bound_extendAll calls
  have hallNodup : (u.extendAll calls).bound.Nodup :=
    extendAll_keeps (p := fun x => x.bound.Nodup) nodup_bound_add hnodup calls
  rw [hbuiltAliases] at haliases
  have htags := tags_eq (hbound ▸ hall) hallNodup haliases
  refine ⟨htags, ?_, ?_, ?_, ?_, ?_, ?_, ?_, ?_⟩
  · exact hallNodup.filter _
  · intro tag
    rw [contains_iff_mem_bound, htags, hall, hbound]
    simp only [List.mem_append]
    tauto
  · intro tag htag
    rw [← haliases]
    exact (mem_tags_iff.mp htag).2
  · intro tag d hknown
    refine ⟨?_, extend_of_contains hknown d⟩
    rw [add_of_contains hknown, hname, hbuiltName]
  · intro tag d hnew
    exact add_of_not_contains hnew d
  · intro tag payload
    have hfind := u.find?_extendAll calls tag
    rw [hdecoders] at hfind
    rw [← hfind]
    cases hfound : (u.extendAll calls).find? tag with
    | some d => exact decode_singleton hfound payload
    | none => rw [decode_of_none hfound, hunknown, hbuiltUnknown]
  · intro a ha payload
    obtain ⟨d, hname, htarget⟩ := find?_build_alias h ha
    rw [decode_extendAll (mem_bound_of_find? hname), decode_extendAll (mem_bound_of_find? htarget),
      decode_singleton hname, decode_singleton htarget]
  · intro more tag payload hknown
    exact decode_extendAll (contains_iff_mem_bound.mp hknown) more payload

/-- A union cannot be built exactly if one of its tags is taken by an earlier one or the
    target of an alias is not bound by then, and the fault is that of the first such
    tag. Otherwise, after any calls to add further tags, each tag that is known is
    bound to one decoder, the one that came first, and keeps it. -/
theorem tags_bound_once (name : Text) (base : Base) (members : List (Text × Decoder α))
    (aliases : List (Text × Text)) :
    (∀ f, build name base members aliases = .error f ↔
      FirstObstructed name [] (entries members aliases) f)
    ∧ ∀ u, build name base members aliases = .ok u → ∀ calls,
      (u.extendAll calls).IsFilledBy name members aliases calls (u.accepted calls) :=
  ⟨fun _ => build_eq_error, fun _ h calls => isFilledBy_extendAll h calls⟩

end ShareVault.TaggedUnion

namespace ShareVault.Token

/-- The members of the union of tokens. -/
def members : List (Text × Decoder Token) :=
  [("native", decodeNative), ("synthetic", decodeSynthetic)]

/-- Calls for the tag that is an alias, for a further one, and for that once more. -/
def laterCalls : List (Text × Decoder Token) :=
  [("cw20", decodeNative), ("ibc", decodeNative), ("ibc", decodeSynthetic)]

/-- Of the calls the second one is accepted. The union is not built with an alias for a
    tag that it does not have. -/
theorem tags_bound_once_ibc :
    TaggedUnion.build "Token" .token members [("cw20", "synthetic")] = .ok union
    ∧ (union.extendAll laterCalls).tags = ["native", "synthetic", "ibc"]
    ∧ (∀ payload, (union.extendAll laterCalls).decode (.object [("ibc", payload)])
      = decodeNative payload)
    ∧ (∀ payload, (union.extendAll laterCalls).decode (.object [("cw20", payload)])
      = (union.extendAll laterCalls).decode (.object [("synthetic", payload)]))
    ∧ TaggedUnion.build "Token" .token members [("cw20", "erc20")]
      = .error (.unboundTarget "erc20") := by
  have hbuild : TaggedUnion.build "Token" .token members [("cw20", "synthetic")] = .ok union := rfl
  obtain ⟨-, hfilled⟩ := TaggedUnion.tags_bound_once "Token" .token members [("cw20", "synthetic")]
  have hcalls := hfilled union hbuild laterCalls
  refine ⟨hbuild, hcalls.tags, ?_, ?_, ?_⟩
  · exact hcalls.decode "ibc"
  · exact hcalls.decode_alias ("cw20", "synthetic") (List.mem_singleton.mpr rfl)
  · obtain ⟨herror, -⟩ := TaggedUnion.tags_bound_once "Token" .token members [("cw20", "erc20")]
    apply (herror (.unboundTarget "erc20")).mpr
    have hfree : ∀ (bound : List Text) tag, tag ∉ bound →
        ∀ g, ¬ TaggedUnion.Obstructs "Token" bound ⟨tag, none⟩ g := by
      intro bound tag hnew g hg
      cases hg with
      | taken _ htaken => exact hnew htaken
    exact .later (hfree _ _ (by decide)) (.later (hfree _ _ (by decide)) (.here (.unbound (by decide))))

end ShareVault.Token
