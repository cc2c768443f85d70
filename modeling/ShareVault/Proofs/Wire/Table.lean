import ShareVault.Wire.Union

/-! # The table of a union

    A union is built by adding members and then aliases. Whatever is added, a
    member keeps its decoder and stays listed under its own tag, and a decoder
    that is found under any tag is that of a member.

    Main statements:
    - `carries_build`: this holds of every union that can be built;
    - `build_ofMembers`: members with different tags can be built.
-/

namespace ShareVault.TaggedUnion

variable {α : Type} {u v : TaggedUnion α} {tag : Text} {d : Decoder α}

/-! ## One more tag -/

theorem contains_iff : u.contains tag = true ↔ ∃ e, (tag, e) ∈ u.decoders := by
  unfold contains
  rw [List.any_eq_true]
  constructor
  · rintro ⟨⟨t, e⟩, hmem, heq⟩
    have ht : t = tag := by simpa using heq
    rw [ht] at hmem
    exact ⟨e, hmem⟩
  · rintro ⟨e, hmem⟩
    exact ⟨(tag, e), hmem, by simp⟩

theorem find?_eq_none_of_not_contains (h : u.contains tag = false) : u.find? tag = none := by
  unfold find?
  rw [List.lookup_eq_none_iff]
  intro p hp
  have hne : tag ≠ p.1 := by
    rintro rfl
    rw [contains_iff.mpr ⟨p.2, hp⟩] at h
    cases h
  simpa using hne

theorem add_eq_ok : u.add tag d = .ok v ↔
    u.contains tag = false ∧ { u with decoders := u.decoders ++ [(tag, d)] } = v := by
  unfold add
  cases u.contains tag with
  | true => simp
  | false => simp

theorem find?_add_self (h : u.add tag d = .ok v) : v.find? tag = some d := by
  obtain ⟨hnew, rfl⟩ := add_eq_ok.mp h
  have hnone := find?_eq_none_of_not_contains hnew
  unfold find? at hnone ⊢
  rw [List.lookup_append, hnone]
  simp

/-- What is found after an addition was there before or is what was added. -/
theorem find?_of_find?_add (h : u.add tag d = .ok v) {other : Text} {e : Decoder α}
    (he : v.find? other = some e) : u.find? other = some e ∨ e = d := by
  obtain ⟨-, rfl⟩ := add_eq_ok.mp h
  unfold find? at he ⊢
  rw [List.lookup_append, Option.or_eq_some_iff] at he
  rcases he with hbefore | ⟨-, hadded⟩
  · exact .inl hbefore
  · rw [List.lookup_cons] at hadded
    split at hadded
    · exact .inr (Option.some.inj hadded).symm
    · cases hadded

theorem contains_add_of_contains (h : u.add tag d = .ok v) {other : Text}
    (hother : u.contains other = true) : v.contains other = true := by
  obtain ⟨-, rfl⟩ := add_eq_ok.mp h
  rw [contains_iff] at hother ⊢
  obtain ⟨e, hmem⟩ := hother
  exact ⟨e, List.mem_append_left _ hmem⟩

theorem contains_add_self (h : u.add tag d = .ok v) : v.contains tag = true := by
  obtain ⟨-, rfl⟩ := add_eq_ok.mp h
  rw [contains_iff]
  exact ⟨d, List.mem_append_right _ (List.mem_singleton.mpr rfl)⟩

theorem mem_tags_iff {other : Text} :
    other ∈ u.tags ↔ u.contains other = true ∧ other ∉ u.aliases := by
  unfold tags
  rw [List.mem_filter, contains_iff]
  simp

/-! ## Members of a union -/

/-- The members are found and listed under their tags, what is found is the
    decoder of a member, and aliases are tags of the union. -/
structure Carries (u : TaggedUnion α) (members : List (Text × Decoder α)) : Prop where
  found : ∀ p ∈ members, u.find? p.1 = some p.2
  listed : ∀ p ∈ members, p.1 ∈ u.tags
  known : ∀ tag d, u.find? tag = some d → d ∈ members.map Prod.snd
  aliases : ∀ name ∈ u.aliases, u.contains name = true

variable {members : List (Text × Decoder α)}

theorem Carries.add (hu : u.Carries members) (h : u.add tag d = .ok v) :
    v.Carries (members ++ [(tag, d)]) := by
  have haliases : v.aliases = u.aliases := by
    obtain ⟨-, rfl⟩ := add_eq_ok.mp h
    rfl
  refine ⟨?_, ?_, ?_, ?_⟩
  · intro p hp
    rcases List.mem_append.mp hp with hold | hnew
    · exact find?_add_of_find? h (hu.found p hold)
    · obtain rfl := List.mem_singleton.mp hnew
      exact find?_add_self h
  · intro p hp
    rw [mem_tags_iff, haliases]
    rcases List.mem_append.mp hp with hold | hnew
    · obtain ⟨hcontains, halias⟩ := mem_tags_iff.mp (hu.listed p hold)
      exact ⟨contains_add_of_contains h hcontains, halias⟩
    · obtain rfl := List.mem_singleton.mp hnew
      refine ⟨contains_add_self h, ?_⟩
      intro halias
      have hcontains := hu.aliases _ halias
      rw [(add_eq_ok.mp h).1] at hcontains
      cases hcontains
  · intro other e he
    rw [List.map_append, List.mem_append]
    rcases find?_of_find?_add h he with hbefore | rfl
    · exact .inl (hu.known other e hbefore)
    · exact .inr (List.mem_singleton.mpr rfl)
  · intro name hname
    rw [haliases] at hname
    exact contains_add_of_contains h (hu.aliases name hname)

theorem Carries.addAll (hu : u.Carries members) {more : List (Text × Decoder α)}
    (h : u.addAll more = .ok v) : v.Carries (members ++ more) := by
  induction more generalizing u members with
  | nil =>
    cases h
    rw [List.append_nil]
    exact hu
  | cons p more ih =>
    obtain ⟨tag, d⟩ := p
    unfold TaggedUnion.addAll at h
    split at h
    · cases h
    · next w hw =>
      rw [List.append_cons]
      exact ih (hu.add hw) h

/-- An alias is one more tag of a known decoder, and not listed. -/
theorem Carries.addAlias (hu : u.Carries members) {name target : Text}
    (h : u.addAlias name target = .ok v) : v.Carries members := by
  unfold TaggedUnion.addAlias at h
  split at h
  · cases h
  · next d hd =>
    split at h
    · cases h
    · next w hw =>
      cases h
      have hadded := hu.add hw
      refine ⟨?_, ?_, ?_, ?_⟩
      · intro p hp
        exact hadded.found p (List.mem_append_left _ hp)
      · intro p hp
        obtain ⟨hcontains, halias⟩ := mem_tags_iff.mp (hadded.listed p (List.mem_append_left _ hp))
        refine mem_tags_iff.mpr ⟨hcontains, ?_⟩
        intro hmem
        rcases List.mem_append.mp hmem with hold | hnew
        · exact halias hold
        -- The tag of a member was there before, and the alias was not.
        · have hbefore := (mem_tags_iff.mp (hu.listed p hp)).1
          rw [List.mem_singleton.mp hnew, (add_eq_ok.mp hw).1] at hbefore
          cases hbefore
      · intro other e he
        have hknown := hadded.known other e he
        rw [List.map_append, List.mem_append] at hknown
        rcases hknown with hmember | hself
        · exact hmember
        · rw [List.mem_singleton.mp hself]
          exact hu.known target d hd
      · intro other hother
        rcases List.mem_append.mp hother with hold | hnew
        · exact hadded.aliases other hold
        · have hself : w.contains name = true := contains_add_self hw
          rw [List.mem_singleton.mp hnew]
          exact hself

theorem Carries.addAliases (hu : u.Carries members) {aliases : List (Text × Text)}
    (h : u.addAliases aliases = .ok v) : v.Carries members := by
  induction aliases generalizing u with
  | nil =>
    cases h
    exact hu
  | cons p aliases ih =>
    obtain ⟨name, target⟩ := p
    unfold TaggedUnion.addAliases at h
    split at h
    · cases h
    · next w hw => exact ih (hu.addAlias hw) h

theorem carries_empty (name : Text) (base : Base) :
    (empty name base : TaggedUnion α).Carries [] := by
  refine ⟨?_, ?_, ?_, ?_⟩
  · intro p hp
    cases hp
  · intro p hp
    cases hp
  · intro tag d h
    cases h
  · intro other hother
    cases hother

theorem carries_build {name : Text} {base : Base} {aliases : List (Text × Text)}
    (h : build name base members aliases = .ok u) : u.Carries members := by
  unfold build at h
  split at h
  · cases h
  · next w hw => exact ((carries_empty name base).addAll hw).addAliases h

/-! ## Members with different tags -/

theorem addAll_of_nodup {more : List (Text × Decoder α)}
    (h : (u.decoders.map Prod.fst ++ more.map Prod.fst).Nodup) :
    u.addAll more = .ok { u with decoders := u.decoders ++ more } := by
  induction more generalizing u with
  | nil =>
    unfold addAll
    rw [List.append_nil]
  | cons p more ih =>
    obtain ⟨tag, d⟩ := p
    have hnew : u.contains tag = false := by
      rw [Bool.eq_false_iff]
      intro hcontains
      obtain ⟨e, hmem⟩ := contains_iff.mp hcontains
      exact (List.nodup_append.mp h).2.2 tag (List.mem_map.mpr ⟨_, hmem, rfl⟩) tag (by simp) rfl
    unfold addAll
    rw [add_eq_ok.mpr ⟨hnew, rfl⟩]
    have hrest : ((u.decoders ++ [(tag, d)]).map Prod.fst ++ more.map Prod.fst).Nodup := by
      simpa using h
    show addAll { u with decoders := u.decoders ++ [(tag, d)] } more = _
    rw [ih hrest]
    simp

/-- Members with different tags are built to the union that has just them. -/
theorem build_ofMembers {name : Text} {base : Base} (h : (members.map Prod.fst).Nodup) :
    build name base members [] = .ok (ofMembers name base members) := by
  have hall := addAll_of_nodup (u := (empty name base : TaggedUnion α)) h
  unfold build
  rw [hall]
  rfl

end ShareVault.TaggedUnion
