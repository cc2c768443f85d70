import ShareVault.Json.Parser

/-! # Values that are written and read again

    Two things can happen to a value between writing and reading: its texts may
    change, and members may come together under one key. `reread` says what is
    left of a value then, for any change of texts and any way to collect members.

    Floating point numbers are left out here. Integers come back as long as they
    have no more digits than are converted.

    Main statements:
    - `rereadMembers_of_nodup`: members with different keys stay apart;
    - `reread_eq_self`: a value comes back whole if none of its texts changes.
-/

namespace ShareVault

namespace Members

theorem set_of_not_mem {key : Text} {m : Members} (h : key ∉ keys m) (value : Json) :
    set key value m = m ++ [(key, value)] := by
  induction m with
  | nil => rfl
  | cons p m ih =>
    obtain ⟨k, v⟩ := p
    simp only [keys, List.map_cons, List.mem_cons, not_or] at h
    unfold set
    rw [if_neg (Ne.symm h.1), ih h.2]
    rfl

@[simp] theorem keys_append (m n : Members) : keys (m ++ n) = keys m ++ keys n :=
  List.map_append

end Members

namespace Json

/-! ## Values that can be read again -/

mutual

/-- All numbers are integers that can be converted, and no object has a key twice. -/
def IsPlain : Json → Prop
  | .int n => (Text.decimal n.natAbs).length ≤ maxDigits
  | .float _ => False
  | .array items => PlainItems items
  | .object members => (Members.keys members).Nodup ∧ PlainMembers members
  | _ => True

/-- Every item is plain. -/
def PlainItems : List Json → Prop
  | [] => True
  | v :: rest => v.IsPlain ∧ PlainItems rest

/-- Every member is plain. -/
def PlainMembers : List (Text × Json) → Prop
  | [] => True
  | (_, v) :: rest => v.IsPlain ∧ PlainMembers rest

end

mutual

/-- All texts in the value, keys included, have a property. -/
def AllTexts (p : Text → Prop) : Json → Prop
  | .text t => p t
  | .array items => AllItemTexts p items
  | .object members => AllMemberTexts p members
  | _ => True

/-- All texts in the items have the property. -/
def AllItemTexts (p : Text → Prop) : List Json → Prop
  | [] => True
  | v :: rest => v.AllTexts p ∧ AllItemTexts p rest

/-- All texts in the members have the property. -/
def AllMemberTexts (p : Text → Prop) : List (Text × Json) → Prop
  | [] => True
  | (k, v) :: rest => p k ∧ v.AllTexts p ∧ AllMemberTexts p rest

end

mutual

theorem allTexts_of_forall {p : Text → Prop} (hp : ∀ t, p t) : ∀ v : Json, v.AllTexts p
  | .text t => hp t
  | .array items => allItemTexts_of_forall hp items
  | .object members => allMemberTexts_of_forall hp members
  | .null | .bool _ | .int _ | .float _ => trivial

theorem allItemTexts_of_forall {p : Text → Prop} (hp : ∀ t, p t) :
    ∀ vs : List Json, AllItemTexts p vs
  | [] => trivial
  | v :: rest => ⟨allTexts_of_forall hp v, allItemTexts_of_forall hp rest⟩

theorem allMemberTexts_of_forall {p : Text → Prop} (hp : ∀ t, p t) :
    ∀ ms : List (Text × Json), AllMemberTexts p ms
  | [] => trivial
  | (k, v) :: rest => ⟨hp k, allTexts_of_forall hp v, allMemberTexts_of_forall hp rest⟩

end

mutual

theorem AllTexts.imp {p q : Text → Prop} (hpq : ∀ t, p t → q t) :
    ∀ {v : Json}, v.AllTexts p → v.AllTexts q
  | .text t, h => hpq t h
  | .array _, h => AllItemTexts.imp hpq h
  | .object _, h => AllMemberTexts.imp hpq h
  | .null, _ | .bool _, _ | .int _, _ | .float _, _ => trivial

theorem AllItemTexts.imp {p q : Text → Prop} (hpq : ∀ t, p t → q t) :
    ∀ {vs : List Json}, AllItemTexts p vs → AllItemTexts q vs
  | [], _ => trivial
  | _ :: _, h => ⟨AllTexts.imp hpq h.1, AllItemTexts.imp hpq h.2⟩

theorem AllMemberTexts.imp {p q : Text → Prop} (hpq : ∀ t, p t → q t) :
    ∀ {ms : List (Text × Json)}, AllMemberTexts p ms → AllMemberTexts q ms
  | [], _ => trivial
  | (k, _) :: _, h => ⟨hpq k h.1, AllTexts.imp hpq h.2.1, AllMemberTexts.imp hpq h.2.2⟩

end

mutual

/-- A value has no surrogates exactly if none of its texts has. -/
theorem isWellFormed_iff_allTexts :
    ∀ {v : Json}, v.isWellFormed = true ↔ v.AllTexts fun t => t.isWellFormed = true
  | .text _ => Iff.rfl
  | .array _ => wellFormedItems_iff_allItemTexts
  | .object _ => wellFormedMembers_iff_allMemberTexts
  | .null | .bool _ | .int _ | .float _ => iff_of_true rfl trivial

theorem wellFormedItems_iff_allItemTexts :
    ∀ {vs : List Json}, wellFormedItems vs = true ↔ AllItemTexts (fun t => t.isWellFormed = true) vs
  | [] => iff_of_true rfl trivial
  | v :: rest => by
    unfold wellFormedItems
    rw [Bool.and_eq_true, isWellFormed_iff_allTexts, wellFormedItems_iff_allItemTexts]
    rfl

theorem wellFormedMembers_iff_allMemberTexts :
    ∀ {ms : List (Text × Json)},
      wellFormedMembers ms = true ↔ AllMemberTexts (fun t => t.isWellFormed = true) ms
  | [] => iff_of_true rfl trivial
  | (k, v) :: rest => by
    unfold wellFormedMembers
    rw [Bool.and_eq_true, Bool.and_eq_true, and_assoc, isWellFormed_iff_allTexts,
      wellFormedMembers_iff_allMemberTexts]
    rfl

end

/-! ## Rereading -/

variable (collect : Parser.Collect) (f : Text → Text)

mutual

/-- The value with `f` applied to its texts and its members collected anew. -/
def reread : Json → Json
  | .text t => .text (f t)
  | .array items => .array (rereadItems items)
  | .object members => .object (rereadMembers [] members)
  | v => v

/-- The items, each reread. -/
def rereadItems : List Json → List Json
  | [] => []
  | v :: rest => v.reread :: rereadItems rest

/-- The members, each reread, collected after those that are given. -/
def rereadMembers (before : Members) : List (Text × Json) → Members
  | [] => before
  | (k, v) :: rest => rereadMembers (collect (f k) v.reread before) rest

end

variable {collect f}

theorem rereadItems_eq_map (vs : List Json) :
    rereadItems collect f vs = vs.map (reread collect f) := by
  induction vs with
  | nil => rfl
  | cons v vs ih =>
    unfold rereadItems
    rw [ih]
    rfl

/-- Members whose keys stay different stay apart. -/
theorem rereadMembers_of_nodup {before ms : Members}
    (h : (Members.keys before ++ (Members.keys ms).map f).Nodup) :
    rereadMembers Members.set f before ms
      = before ++ ms.map fun p => (f p.1, p.2.reread Members.set f) := by
  induction ms generalizing before with
  | nil => simp [rereadMembers]
  | cons p ms ih =>
    obtain ⟨k, v⟩ := p
    -- The key is new, so its member goes to the end of those before.
    have hnew : f k ∉ Members.keys before := by
      intro hmem
      have hdisjoint := (List.nodup_append.mp h).2.2
      exact hdisjoint (f k) hmem (f k) (by simp [Members.keys]) rfl
    have hrest : (Members.keys (before ++ [(f k, v.reread Members.set f)])
        ++ (Members.keys ms).map f).Nodup := by
      simpa [Members.keys] using h
    unfold rereadMembers
    rw [Members.set_of_not_mem hnew, ih hrest]
    simp

/-- An object whose keys do not change keeps its members, each reread. -/
theorem reread_object {ms : Members} (hkeys : ∀ k ∈ Members.keys ms, f k = k)
    (hnodup : (Members.keys ms).Nodup) :
    reread Members.set f (.object ms)
      = .object (ms.map fun p => (p.1, p.2.reread Members.set f)) := by
  have hsame : (Members.keys ms).map f = Members.keys ms := by
    rw [List.map_congr_left (g := id) hkeys, List.map_id]
  have hapart : (Members.keys [] ++ (Members.keys ms).map f).Nodup := by
    rw [hsame]
    exact hnodup
  rw [reread, rereadMembers_of_nodup hapart, List.nil_append]
  congr 1
  apply List.map_congr_left
  intro p hp
  rw [hkeys p.1 (List.mem_map_of_mem hp)]

mutual

/-- A value comes back whole if none of its texts changes. -/
theorem reread_eq_self {p : Text → Prop} (hf : ∀ t, p t → f t = t) :
    ∀ {v : Json}, v.IsPlain → v.AllTexts p → v.reread Members.set f = v
  | .text t, _, ht => by
    unfold reread
    rw [hf t ht]
  | .array items, hplain, htexts => by
    unfold reread
    rw [rereadItems_eq_self hf hplain htexts]
  | .object members, hplain, htexts => by
    obtain ⟨hkeys, hvalues⟩ := rereadMembers_eq_self hf hplain.2 htexts
    rw [reread_object hkeys hplain.1, hvalues]
  | .null, _, _ => rfl
  | .bool _, _, _ => rfl
  | .int _, _, _ => rfl
  | .float _, _, _ => rfl

theorem rereadItems_eq_self {p : Text → Prop} (hf : ∀ t, p t → f t = t) :
    ∀ {vs : List Json}, PlainItems vs → AllItemTexts p vs → rereadItems Members.set f vs = vs
  | [], _, _ => rfl
  | v :: rest, hplain, htexts => by
    unfold rereadItems
    rw [reread_eq_self hf hplain.1 htexts.1, rereadItems_eq_self hf hplain.2 htexts.2]

theorem rereadMembers_eq_self {p : Text → Prop} (hf : ∀ t, p t → f t = t) :
    ∀ {ms : Members}, PlainMembers ms → AllMemberTexts p ms →
      (∀ k ∈ Members.keys ms, f k = k)
        ∧ ms.map (fun q => (q.1, q.2.reread Members.set f)) = ms
  | [], _, _ => by
    refine ⟨?_, rfl⟩
    intro k hk
    cases hk
  | (k, v) :: rest, hplain, htexts => by
    obtain ⟨hkeys, hvalues⟩ := rereadMembers_eq_self hf hplain.2 htexts.2.2
    refine ⟨?_, ?_⟩
    · intro k' hk'
      rcases List.mem_cons.mp hk' with rfl | hrest
      · exact hf _ htexts.1
      · exact hkeys k' hrest
    · rw [List.map_cons, hvalues, reread_eq_self hf hplain.1 htexts.2.1]

end

end Json

end ShareVault
