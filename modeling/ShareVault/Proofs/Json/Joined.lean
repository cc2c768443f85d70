import ShareVault.Proofs.Json.Reread
import ShareVault.Proofs.Text.Surrogates

/-! # Values with their surrogates joined

    What is left of a value that was written with all but ASCII escaped: every
    pair of surrogates side by side comes back as one code point.

    Main statements:
    - `joined_eq_self`: a value without such a pair comes back whole;
    - `joined_object`: an object with different keys without surrogates keeps
      its members apart;
    - `isJoined_of_isWellFormed`: a value without surrogates has no such pair.
-/

namespace ShareVault

namespace Members

theorem get?_map (f : Json → Json) (key : Text) (m : Members) :
    get? key (m.map fun p => (p.1, f p.2)) = (get? key m).map f := by
  induction m with
  | nil => rfl
  | cons p m ih =>
    obtain ⟨k, v⟩ := p
    rw [List.map_cons]
    unfold get?
    by_cases hk : k = key
    · rw [if_pos hk, if_pos hk]
      rfl
    · rw [if_neg hk, if_neg hk]
      exact ih

end Members

namespace Json

/-! ## Parts -/

theorem allMemberTexts_iff {p : Text → Prop} {ms : Members} :
    AllMemberTexts p ms ↔ ∀ q ∈ ms, p q.1 ∧ q.2.AllTexts p := by
  induction ms with
  | nil => simp [AllMemberTexts]
  | cons q ms ih =>
    obtain ⟨k, v⟩ := q
    simp [AllMemberTexts, ih, and_assoc]

theorem plainMembers_iff {ms : Members} : PlainMembers ms ↔ ∀ q ∈ ms, q.2.IsPlain := by
  induction ms with
  | nil => simp [PlainMembers]
  | cons q ms ih =>
    obtain ⟨k, v⟩ := q
    simp [PlainMembers, ih]

theorem isPlain_singleton {k : Text} {v : Json} (h : v.IsPlain) : (object [(k, v)]).IsPlain :=
  ⟨List.pairwise_singleton _ k, h, trivial⟩

mutual

/-- A plain value has no number that JSON cannot write. -/
theorem withoutNonFinite_eq_self : ∀ {v : Json}, v.IsPlain → v.withoutNonFinite = v
  | .array items, h => by
    unfold withoutNonFinite
    rw [itemsWithoutNonFinite_eq_self h]
  | .object members, h => by
    unfold withoutNonFinite
    rw [membersWithoutNonFinite_eq_self h.2]
  | .float _, h => by cases h
  | .null, _ => rfl
  | .bool _, _ => rfl
  | .int _, _ => rfl
  | .text _, _ => rfl

theorem itemsWithoutNonFinite_eq_self :
    ∀ {vs : List Json}, PlainItems vs → itemsWithoutNonFinite vs = vs
  | [], _ => rfl
  | v :: rest, h => by
    unfold itemsWithoutNonFinite
    rw [withoutNonFinite_eq_self h.1, itemsWithoutNonFinite_eq_self h.2]

theorem membersWithoutNonFinite_eq_self :
    ∀ {ms : Members}, PlainMembers ms → membersWithoutNonFinite ms = ms
  | [], _ => rfl
  | (k, v) :: rest, h => by
    unfold membersWithoutNonFinite
    rw [withoutNonFinite_eq_self h.1, membersWithoutNonFinite_eq_self h.2]

end

/-! ## Joining -/

/-- The value with the surrogates in its texts joined. -/
def joined (v : Json) : Json := v.reread Members.set Encoding.joinSurrogates

/-- No text in the value, keys included, has surrogates to join. -/
def IsJoined (v : Json) : Prop := v.AllTexts fun t => t.isJoined = true

theorem joined_eq_self {v : Json} (hplain : v.IsPlain) (h : v.IsJoined) : v.joined = v :=
  reread_eq_self (fun _ => Encoding.joinSurrogates_eq_self_iff.mpr) hplain h

theorem joined_text (t : Text) : (text t).joined = text (Encoding.joinSurrogates t) := rfl

theorem joined_array (vs : List Json) : (array vs).joined = array (vs.map joined) := by
  show array (rereadItems Members.set Encoding.joinSurrogates vs) = _
  rw [rereadItems_eq_map]
  rfl

theorem joined_singleton (k : Text) (v : Json) :
    (object [(k, v)]).joined = object [(Encoding.joinSurrogates k, v.joined)] := rfl

theorem joined_object {ms : Members} (hkeys : ∀ k ∈ Members.keys ms, Text.isWellFormed k = true)
    (hnodup : (Members.keys ms).Nodup) :
    (object ms).joined = object (ms.map fun p => (p.1, p.2.joined)) := by
  apply reread_object _ hnodup
  intro k hk
  exact Encoding.joinSurrogates_of_isWellFormed (hkeys k hk)

theorem isJoined_object {ms : Members} :
    (object ms).IsJoined ↔ ∀ q ∈ ms, Text.isJoined q.1 = true ∧ q.2.IsJoined :=
  allMemberTexts_iff

/-- A text that comes back whole has no surrogates to join. -/
theorem isJoined_of_joined_text {t : Text} (h : (text t).joined = text t) : (text t).IsJoined := by
  rw [joined_text, text.injEq] at h
  exact Encoding.joinSurrogates_eq_self_iff.mp h

/-- A value without surrogates has none to join. -/
theorem isJoined_of_isWellFormed {v : Json} (h : v.isWellFormed = true) : v.IsJoined :=
  (isWellFormed_iff_allTexts.mp h).imp fun _ => Text.isJoined_of_isWellFormed

end Json

end ShareVault
