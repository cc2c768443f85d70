import ShareVault.Proofs.Text.Digits
import ShareVault.Wire.Union
import Mathlib.Data.List.Forall2

/-! # What readers accept

    For each reader, the JSON values that it accepts and what it makes of them.
    The reports on other values do not matter here.

    Main statements:
    - `wide_eq_ok`, `word_eq_ok`, `text_eq_ok`: scalars;
    - `optional_eq_ok`, `items_eq_ok`: options and sequences;
    - `record_eq_ok`, `field_eq_ok`, `fieldOr_eq_ok`: records;
    - `decode_eq_ok`: members of unions.
-/

namespace ShareVault

theorem Except.map_eq_ok {ε α β : Type} {f : α → β} {x : Except ε α} {b : β} :
    f <$> x = .ok b ↔ ∃ a, x = .ok a ∧ f a = b := by
  cases x with
  | error e => simp [Functor.map, Except.map]
  | ok a => simp [Functor.map, Except.map]

theorem Except.mapError_eq_ok {ε ε' α : Type} {f : ε → ε'} {x : Except ε α} {a : α} :
    x.mapError f = .ok a ↔ x = .ok a := by
  cases x with
  | error e => simp [Except.mapError]
  | ok b => simp [Except.mapError]

theorem Except.map_eq_error {ε α β : Type} {f : α → β} {x : Except ε α} {e : ε} :
    f <$> x = .error e ↔ x = .error e := by
  cases x with
  | error e => simp [Functor.map, Except.map]
  | ok a => simp [Functor.map, Except.map]

theorem Except.mapError_eq_error {ε ε' α : Type} {f : ε → ε'} {x : Except ε α} {e : ε'} :
    x.mapError f = .error e ↔ ∃ e', x = .error e' ∧ f e' = e := by
  cases x with
  | error e => simp [Except.mapError]
  | ok b => simp [Except.mapError]

theorem Members.eq_nil_of_keys {m : Members} (h : ∀ k ∈ Members.keys m, k ∈ ([] : List Text)) :
    m = [] := by
  cases m with
  | nil => rfl
  | cons p m => exact absurd (h p.1 (List.mem_cons_self ..)) (List.not_mem_nil)

theorem Checked.fail_ne_ok {α : Type} {p : Problem} {a : α} : Checked.fail p ≠ .ok a := by
  intro h
  cases h

/-- How a wide integer is written: as an integer, or as any decimal numeral that
    is not too long, with or without leading zeros. -/
inductive WideWritten (n : Nat) : Json → Prop where
  | integer : WideWritten n (.int n)
  | numeral (t : Text) (hdigits : t.isDigits = true) (hlength : t.length ≤ Json.maxDigits)
      (hvalue : t.digitsValue = n) : WideWritten n (.text t)

namespace Reader

/-! ## Scalars -/

theorem inRange_eq_ok {bits n : Nat} {i : Int} :
    inRange bits i = .ok n ↔ i = n ∧ n < twoTo bits := by
  unfold inRange
  by_cases h : 0 ≤ i ∧ i < twoTo bits
  · rw [if_pos h, Except.ok.injEq]
    omega
  · rw [if_neg h]
    constructor
    · intro hfail
      exact absurd hfail Checked.fail_ne_ok
    · intro hn
      omega

theorem word_eq_ok {bits n : Nat} {v : Json} :
    word bits v = .ok n ↔ v = .int n ∧ n < twoTo bits := by
  cases v with
  | int i => simp [word, inRange_eq_ok]
  | _ => simp [word, Checked.fail]

theorem wide_eq_ok {bits n : Nat} {v : Json} :
    wide bits v = .ok n ↔ WideWritten n v ∧ n < twoTo bits := by
  cases v with
  | int i =>
    simp only [wide, inRange_eq_ok]
    constructor
    · rintro ⟨rfl, hn⟩
      exact ⟨.integer, hn⟩
    · rintro ⟨hwritten, hn⟩
      cases hwritten
      exact ⟨rfl, hn⟩
  | text t =>
    simp only [wide]
    by_cases hdigits : t.isDigits = true
    · by_cases hlength : Json.maxDigits < t.length
      · rw [if_pos hdigits, if_pos hlength]
        constructor
        · intro hfail
          exact absurd hfail Checked.fail_ne_ok
        · rintro ⟨hwritten, -⟩
          cases hwritten
          omega
      · rw [if_pos hdigits, if_neg hlength, inRange_eq_ok]
        constructor
        · rintro ⟨hvalue, hn⟩
          exact ⟨.numeral t hdigits (by omega) (by omega), hn⟩
        · rintro ⟨hwritten, hn⟩
          cases hwritten with
          | numeral _ _ _ hvalue => exact ⟨by omega, hn⟩
    · rw [if_neg hdigits]
      constructor
      · intro hfail
        exact absurd hfail Checked.fail_ne_ok
      · rintro ⟨hwritten, -⟩
        cases hwritten with
        | numeral _ hd _ _ => exact absurd hd hdigits
  | _ =>
    simp only [wide]
    constructor
    · intro hfail
      exact absurd hfail Checked.fail_ne_ok
    · rintro ⟨hwritten, -⟩
      cases hwritten

theorem text_eq_ok {v : Json} {t : Text} : text v = .ok t ↔ v = .text t := by
  cases v with
  | text s => simp [text]
  | _ => simp [text, Checked.fail]

/-! ## Options and sequences -/

variable {α : Type} {read : Json → Checked α}

theorem optional_of_ne_null {v : Json} (h : v ≠ .null) : optional read v = some <$> read v := by
  cases v with
  | null => exact absurd rfl h
  | _ => rfl

theorem optional_eq_ok {v : Json} {o : Option α} :
    optional read v = .ok o ↔
      (v = .null ∧ o = none) ∨ (v ≠ .null ∧ ∃ a, read v = .ok a ∧ o = some a) := by
  by_cases h : v = .null
  · subst h
    simp only [optional, Except.ok.injEq, ne_eq, not_true_eq_false, false_and, or_false, true_and]
    exact eq_comm
  · rw [optional_of_ne_null h, Except.map_eq_ok]
    simp [h, eq_comm]

theorem itemsFrom_eq_ok {n : Nat} {vs : List Json} {as : List α} :
    itemsFrom read n vs = .ok as ↔ List.Forall₂ (fun v a => read v = .ok a) vs as := by
  induction vs generalizing n as with
  | nil =>
    simp only [itemsFrom, Except.ok.injEq, List.forall₂_nil_left_iff]
    exact eq_comm
  | cons v vs ih =>
    simp only [itemsFrom, Except.map_eq_ok, Checked.both_eq_ok, Checked.under_eq_ok, ih]
    constructor
    · rintro ⟨⟨a, rest⟩, ⟨ha, hrest⟩, rfl⟩
      exact .cons ha hrest
    · intro hall
      cases hall with
      | cons ha hrest => exact ⟨(_, _), ⟨ha, hrest⟩, rfl⟩

theorem items_eq_ok {v : Json} {as : List α} :
    items read v = .ok as ↔
      ∃ vs, v = .array vs ∧ List.Forall₂ (fun v a => read v = .ok a) vs as := by
  cases v with
  | array vs => simp [items, itemsFrom_eq_ok]
  | _ => simp [items, Checked.fail]

/-! ## Records -/

theorem field_eq_ok {m : Members} {name : Text} {a : α} :
    field m name read = .ok a ↔ ∃ v, m.get? name = some v ∧ read v = .ok a := by
  unfold field
  rw [Checked.under_eq_ok]
  cases h : m.get? name with
  | none => simp [Checked.fail]
  | some v => simp

theorem fieldOr_eq_ok {m : Members} {name : Text} {default a : α} :
    fieldOr m name default read = .ok a ↔
      (m.get? name = none ∧ a = default) ∨ ∃ v, m.get? name = some v ∧ read v = .ok a := by
  unfold fieldOr
  cases h : m.get? name with
  | none => simp [eq_comm]
  | some v => simp [Checked.under_eq_ok]

theorem closed_eq_ok {names : List Text} {m : Members} {fields : Checked α} {a : α} :
    closed names m fields = .ok a ↔ (∀ k ∈ Members.keys m, k ∈ names) ∧ fields = .ok a := by
  by_cases hkeys : ∀ k ∈ Members.keys m, k ∈ names
  · have hnone : (Members.keys m).filter (fun k => !names.contains k) = [] := by
      rw [List.filter_eq_nil_iff]
      intro k hk
      simp [hkeys k hk]
    unfold closed extras
    rw [hnone]
    cases fields with
    | ok b =>
      simp only [List.all_nil, if_true, List.map_nil, Except.ok.injEq, iff_and_self]
      intro _
      exact hkeys
    | error e => simp
  · have hsome : (Members.keys m).filter (fun k => !names.contains k) ≠ [] := by
      rw [ne_eq, List.filter_eq_nil_iff]
      intro hall
      apply hkeys
      intro k hk
      simpa using hall k hk
    -- Whatever the fields are, the extra keys are reported.
    have hextras : extras names m ≠ [] := by
      unfold extras
      rw [ne_eq, List.map_eq_nil_iff]
      exact hsome
    have hfails : closed names m fields ≠ .ok a := by
      unfold closed
      split
      · cases hx : extras names m with
        | nil => exact absurd hx hextras
        | cons issue issues =>
          cases fields with
          | ok b => simp
          | error e => simp
      · exact Checked.fail_ne_ok
    constructor
    · intro h
      exact absurd h hfails
    · rintro ⟨h, -⟩
      exact absurd h hkeys

theorem record_eq_ok {origin : Origin} {name : Text} {names : List Text}
    {fields : Members → Checked α} {v : Json} {a : α} :
    record origin name names fields v = .ok a ↔
      ∃ m, v = .object m ∧ (∀ k ∈ Members.keys m, k ∈ names) ∧ fields m = .ok a := by
  cases v with
  | object m => simp [record, closed_eq_ok]
  | _ => simp [record, Checked.fail]

end Reader

/-! ## Unions -/

namespace TaggedUnion

variable {α : Type} {u : TaggedUnion α}

theorem decode_eq_ok {v : Json} {a : α} :
    u.decode v = .ok a ↔
      ∃ tag payload d, v = .object [(tag, payload)] ∧ u.find? tag = some d ∧ d payload = .ok a := by
  constructor
  · intro h
    unfold decode at h
    split at h
    · next tag payload =>
      split at h
      · next d hd => exact ⟨tag, payload, d, rfl, hd, h⟩
      · cases h
    · cases h
  · rintro ⟨tag, payload, d, rfl, hd, h⟩
    rw [decode_singleton hd]
    exact h

theorem field_eq_ok {v : Json} {a : α} : u.field v = .ok a ↔ u.decode v = .ok a := by
  unfold field
  split
  · next b hb => simp [hb]
  · next m hm => simp [hm, Checked.fail]
  · next c hc => simp [hc, Checked.fail]

end TaggedUnion

theorem structPayload_eq_ok {α : Type} {tag : Text} {names : List Text}
    {fields : Members → Checked α} {v : Json} {a : α} :
    structPayload tag names fields v = .ok a ↔
      ∃ m, v = .object m ∧ (∀ k ∈ Members.keys m, k ∈ names) ∧ fields m = .ok a := by
  cases v with
  | object m => simp [structPayload, Except.mapError_eq_ok, Reader.closed_eq_ok]
  | _ => simp [structPayload]

theorem newtypePayload_eq_ok {α : Type} {tag name : Text} {read : Json → Checked α} {v : Json}
    {a : α} : newtypePayload tag name read v = .ok a ↔ read v = .ok a := by
  unfold newtypePayload
  rw [Except.mapError_eq_ok, Checked.under_eq_ok]

end ShareVault
