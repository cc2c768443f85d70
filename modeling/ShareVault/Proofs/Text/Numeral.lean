import Mathlib.Data.List.Induction
import ShareVault.Proofs.Text.Digits

/-! # Canonical numerals

    A number is written by many digit texts, which differ in the zeros in front, but has
    just one numeral: the digit text that does not begin with a zero, unless it is that
    zero alone. So whoever reads a digit text and writes the number again has dropped the
    zeros in front and nothing else.

    Main statements:
    - `IsNumeral.eq_decimal`: the numeral of a number is its decimal numeral;
    - `isNumeral_withoutLeadingZeros`: and what is left of a digit text without the zeros
      in front.
-/

namespace ShareVault

/-- A digit is the digit of its value. -/
theorem CodePoint.exists_digit_eq {c : CodePoint} (h : c.isDigit = true) :
    ∃ d, d < 10 ∧ c.digitValue = d ∧ c = digit d := by
  simp only [isDigit, Bool.and_eq_true, decide_eq_true_eq] at h
  refine ⟨c.digitValue, ?_, rfl, ?_⟩
  · unfold digitValue
    omega
  · have hc := c.isLt
    apply Fin.ext
    show c.val = (0x30 + (c.val - 0x30)) % 0x110000
    omega

namespace Text

/-- The digit that numerals do not begin with. -/
def zero : CodePoint := CodePoint.ofChar '0'

theorem isDigits_iff {t : Text} : t.isDigits = true ↔ t ≠ [] ∧ ∀ c ∈ t, c.isDigit = true := by
  unfold isDigits
  rw [Bool.and_eq_true, Bool.not_eq_true', List.isEmpty_eq_false_iff, List.all_eq_true]

/-- The numeral of a number: digits that write it, the first of which is no zero, unless
    it is the only one. -/
structure IsNumeral (n : Nat) (t : Text) : Prop where
  isDigits : t.isDigits = true
  value : t.digitsValue = n
  lead : t.head? = some zero → t = [zero]

theorem isNumeral_decimal (n : Nat) : IsNumeral n (decimal n) := by
  refine ⟨isDigits_decimal n, digitsValue_decimal n, ?_⟩
  intro hlead
  obtain ⟨c, rest, heq, -, honly⟩ := exists_decimal_eq_cons n
  rw [heq] at hlead
  have hc : c = zero := Option.some.inj hlead
  obtain ⟨-, rfl⟩ := honly hc
  rw [heq, hc]

/-- A number has just one numeral. -/
theorem IsNumeral.eq_decimal {n : Nat} {t : Text} (h : IsNumeral n t) : t = decimal n := by
  -- By the last digit: what is before it is a numeral as well, and that of a tenth.
  induction t using List.reverseRecOn generalizing n with
  | nil => exact absurd rfl (isDigits_iff.mp h.isDigits).1
  | append_singleton t c ih =>
    obtain ⟨-, hall⟩ := isDigits_iff.mp h.isDigits
    obtain ⟨d, hd, hvalue, rfl⟩ :=
      CodePoint.exists_digit_eq (hall c (List.mem_append_right t (List.mem_singleton_self c)))
    have hn : n = 10 * digitsValue t + d := by
      rw [← h.value, digitsValue_append_digit, hvalue]
    by_cases hnil : t = []
    · subst hnil
      have hsmall : n = d := hn.trans (by simp [digitsValue])
      rw [hsmall, decimal_of_lt hd]
      rfl
    · have hlead : t.head? ≠ some zero := by
        intro hzero
        have hone := h.lead (by rw [List.head?_append, hzero]; rfl)
        have hlength := congrArg List.length hone
        simp only [List.length_append, List.length_singleton] at hlength
        exact hnil (List.length_eq_zero_iff.mp (by omega))
      have hfront : IsNumeral (digitsValue t) t := by
        refine ⟨isDigits_iff.mpr ⟨hnil, ?_⟩, rfl, fun hzero => absurd hzero hlead⟩
        intro c hc
        exact hall c (List.mem_append_left _ hc)
      have hdecimal := ih hfront
      -- The front is not zero, or it would begin with a zero.
      have hpos : digitsValue t ≠ 0 := by
        intro hzero
        rw [hzero] at hdecimal
        exact hlead (by rw [hdecimal, decimal_of_lt (by decide)]; rfl)
      rw [decimal_of_le (by omega), show n / 10 = digitsValue t by omega,
        show n % 10 = d by omega, ← hdecimal]

/-! ## Zeros in front -/

/-- A text without the zeros in front. One of them stays where there is nothing else. -/
def withoutLeadingZeros (t : Text) : Text :=
  match t.dropWhile (· == zero) with
  | [] => [zero]
  | c :: rest => c :: rest

theorem withoutLeadingZeros_zero_cons (t : Text) :
    withoutLeadingZeros (zero :: t) = withoutLeadingZeros t := by
  unfold withoutLeadingZeros
  rw [List.dropWhile_cons_of_pos (by exact beq_self_eq_true zero)]

theorem withoutLeadingZeros_cons {c : CodePoint} (hc : c ≠ zero) (t : Text) :
    withoutLeadingZeros (c :: t) = c :: t := by
  unfold withoutLeadingZeros
  rw [List.dropWhile_cons_of_neg (by simpa using hc)]

theorem digitsValue_zero_cons (t : Text) : digitsValue (zero :: t) = digitsValue t := rfl

/-- What is left of a digit text without the zeros in front is the numeral of the number
    that it writes. -/
theorem isNumeral_withoutLeadingZeros {t : Text} (h : t.isDigits = true) :
    IsNumeral t.digitsValue t.withoutLeadingZeros := by
  obtain ⟨hne, hall⟩ := isDigits_iff.mp h
  clear h
  induction t with
  | nil => exact absurd rfl hne
  | cons c t ih =>
    by_cases hc : c = zero
    · subst hc
      rw [digitsValue_zero_cons, withoutLeadingZeros_zero_cons]
      by_cases ht : t = []
      · subst ht
        exact ⟨rfl, rfl, fun _ => rfl⟩
      · exact ih ht fun d hd => hall d (List.mem_cons_of_mem _ hd)
    · rw [withoutLeadingZeros_cons hc]
      refine ⟨isDigits_iff.mpr ⟨hne, hall⟩, rfl, ?_⟩
      intro hlead
      exact absurd (Option.some.inj hlead) hc

end Text

end ShareVault
