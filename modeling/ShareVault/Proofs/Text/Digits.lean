import ShareVault.Number.Power
import ShareVault.Text.Digits

/-! # What numerals look like

    A decimal numeral begins with a digit, and with a zero only when it is that
    zero. It is not longer than the number in binary. A hexadecimal numeral of a
    fixed width is read back as long as the number fits.

    Main statements:
    - `exists_decimal_eq_cons`: the first digit of a decimal numeral;
    - `length_decimal_le`, `length_decimal_le_iff`: its length;
    - `hexValue?_hex`: hexadecimal numerals are read back.
-/

namespace ShareVault.Text

/-! ## Decimal numerals -/

theorem eq_zero_of_digit : ∀ d, d < 10 → CodePoint.digit d = CodePoint.ofChar '0' → d = 0 := by
  decide

theorem decimal_of_lt {n : Nat} (h : n < 10) : decimal n = [CodePoint.digit n] := by
  rw [decimal, if_pos h]

theorem decimal_of_le {n : Nat} (h : 10 ≤ n) :
    decimal n = decimal (n / 10) ++ [CodePoint.digit (n % 10)] := by
  rw [decimal, if_neg (by omega)]

/-- A numeral begins with a digit; only zero itself begins with a zero. -/
theorem exists_decimal_eq_cons (n : Nat) : ∃ c t, decimal n = c :: t ∧ c.isDigit = true
    ∧ (c = CodePoint.ofChar '0' → n = 0 ∧ t = []) := by
  induction n using Nat.strongRecOn with
  | _ n ih =>
    by_cases h : n < 10
    · refine ⟨CodePoint.digit n, [], decimal_of_lt h, CodePoint.digit_isDigit n h, ?_⟩
      intro hzero
      exact ⟨eq_zero_of_digit n h hzero, rfl⟩
    · obtain ⟨c, t, heq, hdigit, hlead⟩ := ih (n / 10) (by omega)
      refine ⟨c, t ++ [CodePoint.digit (n % 10)], ?_, hdigit, ?_⟩
      · rw [decimal_of_le (by omega), heq]
        rfl
      · -- The first digit is that of a number that is not zero.
        intro hzero
        have := (hlead hzero).1
        omega

/-- The numeral of an integer begins with a digit, or with a sign and a digit. -/
theorem exists_ofInt_eq_cons (n : Int) : ∃ c t, ofInt n = c :: t
    ∧ (c.isDigit = true
      ∨ c = CodePoint.ofChar '-' ∧ ∃ d u, t = d :: u ∧ d.isDigit = true) := by
  cases n with
  | ofNat n =>
    obtain ⟨c, t, heq, hdigit, -⟩ := exists_decimal_eq_cons n
    exact ⟨c, t, heq, Or.inl hdigit⟩
  | negSucc n =>
    obtain ⟨d, u, heq, hdigit, -⟩ := exists_decimal_eq_cons (n + 1)
    exact ⟨CodePoint.ofChar '-', decimal (n + 1), rfl, Or.inr ⟨rfl, d, u, heq, hdigit⟩⟩

theorem length_decimal_le {n bits : Nat} (h : n < twoTo bits) :
    (decimal n).length ≤ bits + 1 := by
  induction n using Nat.strongRecOn generalizing bits with
  | _ n ih =>
    by_cases hn : n < 10
    · rw [decimal_of_lt hn, List.length_singleton]
      omega
    · cases bits with
      | zero =>
        rw [twoTo_zero] at h
        omega
      | succ bits =>
        rw [twoTo_succ] at h
        -- One digit less is a tenth, so it is also a number of one bit less.
        have hpart : n / 10 < twoTo bits := by omega
        have hshort := ih (n / 10) (by omega) hpart
        rw [decimal_of_le (by omega), List.length_append, List.length_singleton]
        omega

/-- A numeral has as many digits as there are tens in the least power above the number. -/
theorem length_decimal_le_iff {n k : Nat} (hk : 0 < k) :
    (decimal n).length ≤ k ↔ n < tenTo k := by
  induction n using Nat.strongRecOn generalizing k with
  | _ n ih =>
    obtain ⟨j, rfl⟩ := Nat.exists_eq_add_one.mpr hk
    have hpos := tenTo_pos j
    rw [tenTo_succ]
    by_cases hn : n < 10
    · rw [decimal_of_lt hn, List.length_singleton]
      omega
    · rw [decimal_of_le (by omega), List.length_append, List.length_singleton]
      by_cases hj : 0 < j
      -- One digit less is a tenth.
      · have hpart := ih (n / 10) (by omega) hj
        omega
      · obtain rfl : j = 0 := by omega
        have hfirst := List.length_pos_iff.mpr (decimal_ne_nil (n / 10))
        rw [tenTo_zero]
        omega

theorem not_isSurrogate_of_isDigit {c : CodePoint} (h : c.isDigit = true) :
    c.isSurrogate = false := by
  simp only [CodePoint.isDigit, Bool.and_eq_true, decide_eq_true_eq] at h
  simp only [CodePoint.isSurrogate, Bool.and_eq_false_iff, decide_eq_false_iff_not]
  omega

theorem isWellFormed_decimal (n : Nat) : (decimal n).isWellFormed = true := by
  have hdigits := decimal_all_isDigit n
  rw [List.all_eq_true] at hdigits
  unfold isWellFormed
  rw [List.all_eq_true]
  intro c hc
  rw [not_isSurrogate_of_isDigit (hdigits c hc)]
  rfl

/-! ## Hexadecimal numerals -/

theorem hexValue?_append_digit (t : Text) (c : CodePoint) :
    hexValue? (t ++ [c]) = (hexValue? t).bind fun n => (16 * n + ·) <$> c.hexValue? := by
  unfold hexValue?
  rw [List.foldlM_append]
  cases List.foldlM (fun n c => (16 * n + ·) <$> CodePoint.hexValue? c) 0 t with
  | none => rfl
  | some n =>
    simp

/-- Numerals of a fixed width are read back, up to what does not fit. -/
theorem hexValue?_hex (width n : Nat) :
    hexValue? (hex width n) = some (n % twoTo (4 * width)) := by
  induction width generalizing n with
  | zero =>
    rw [Nat.mul_zero, twoTo_zero, Nat.mod_one]
    rfl
  | succ width ih =>
    have hpower : twoTo (4 * (width + 1)) = 16 * twoTo (4 * width) := by
      rw [Nat.mul_succ, twoTo_succ, twoTo_succ, twoTo_succ, twoTo_succ]
      omega
    have hsplit : n % twoTo (4 * (width + 1)) = 16 * (n / 16 % twoTo (4 * width)) + n % 16 := by
      rw [hpower, Nat.mod_mul, Nat.add_comm]
    unfold hex
    rw [hexValue?_append_digit, ih, CodePoint.hexValue?_hexDigit _ (by omega), hsplit]
    rfl

end ShareVault.Text
