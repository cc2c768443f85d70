import ShareVault.Json.Parser
import ShareVault.Proofs.Text.Digits

/-! # Reading words and integers back

    A word is found by its letters, whatever follows it. A numeral ends where no
    digit, point or exponent follows; before a comma or a closing bracket it does,
    and then the integer is read with all its digits.

    Main statements:
    - `word?_null`, `word?_true`, `word?_false`: the words that messages use;
    - `word?_ofInt`: no numeral begins with a word;
    - `number_ofInt`: integers are read back.
-/

namespace ShareVault.Json

/-- The numeral of a convertible integer has at most as many digits as are converted. -/
theorem isConvertible_iff {n : Int} :
    isConvertible n = true ↔ (Text.decimal n.natAbs).length ≤ maxDigits := by
  rw [Text.length_decimal_le_iff (by decide), isConvertible, decide_eq_true_iff]

namespace Parser

open Text

/-! ## Words -/

theorem word?_null (rest : Text) : word? ("null" ++ rest) = some (.null, rest) := rfl

theorem word?_true (rest : Text) : word? ("true" ++ rest) = some (.bool true, rest) := rfl

theorem word?_false (rest : Text) : word? ("false" ++ rest) = some (.bool false, rest) := rfl

/-! ## Where numerals end -/

/-- No numeral goes on at the start of the text. -/
def EndsNumeral : Text → Prop
  | [] => True
  | c :: _ => c.isDigit = false ∧ c ≠ lit '.' ∧ c ≠ lit 'e' ∧ c ≠ lit 'E'

theorem EndsNumeral.fraction? {t : Text} (h : EndsNumeral t) : fraction? t = none := by
  cases t with
  | nil => rfl
  | cons c t =>
    cases t with
    | nil => rfl
    | cons d t =>
      unfold Parser.fraction?
      simp [h.2.1]

theorem EndsNumeral.exponent? {t : Text} (h : EndsNumeral t) : exponent? t = none := by
  cases t with
  | nil => rfl
  | cons c t =>
    unfold Parser.exponent?
    simp [h.2.2.1, h.2.2.2]

/-- The digits before the end of a numeral are those of the numeral. -/
theorem digits_append {ds rest : Text} (hds : ds.all CodePoint.isDigit = true)
    (hrest : EndsNumeral rest) : digits (ds ++ rest) = (ds, rest) := by
  induction ds with
  | nil =>
    cases rest with
    | nil => rfl
    | cons c rest => simp [digits, hrest.1]
  | cons d ds ih =>
    rw [List.all_cons, Bool.and_eq_true] at hds
    have hrec := ih hds.2
    simp only [digits, Prod.mk.injEq] at hrec
    simp [digits, hds.1, hrec.1, hrec.2]

/-! ## Integers -/

theorem wholeDigits?_decimal (n : Nat) {rest : Text} (hrest : EndsNumeral rest) :
    wholeDigits? (decimal n ++ rest) = some (decimal n, rest) := by
  obtain ⟨c, t, heq, hdigit, hlead⟩ := exists_decimal_eq_cons n
  have hall := decimal_all_isDigit n
  rw [heq] at hall ⊢
  -- A zero ends the whole part at once, so it has to be all of it.
  by_cases hzero : c = lit '0'
  · obtain rfl := (hlead hzero).2
    simp [wholeDigits?, hzero]
  · have hdigits := digits_append hall hrest
    rw [List.cons_append] at hdigits ⊢
    simp [wholeDigits?, hzero, hdigit, hdigits]

theorem unsignedNumber_decimal (negative : Bool) {n : Nat}
    (hn : (decimal n).length ≤ Json.maxDigits) {rest : Text} (hrest : EndsNumeral rest) :
    unsignedNumber negative (decimal n) rest
      = .ok (.int (if negative then -(n : Int) else n), rest) := by
  unfold unsignedNumber
  rw [hrest.fraction?]
  simp only [hrest.exponent?]
  rw [if_neg (by omega), digitsValue_decimal]

/-- The sign of an integer, and its digits. -/
theorem number_eq_unsignedNumber (n : Int) {rest : Text} (hrest : EndsNumeral rest) :
    number (ofInt n ++ rest) = unsignedNumber (decide (n < 0)) (decimal n.natAbs) rest := by
  cases n with
  | ofNat n =>
    obtain ⟨c, t, heq, hdigit, -⟩ := exists_decimal_eq_cons n
    have hsign : c ≠ lit '-' := by
      rintro rfl
      exact absurd hdigit (by decide)
    have hwhole := wholeDigits?_decimal n hrest
    have hnatural : decide (Int.ofNat n < 0) = false := decide_eq_false (by simp)
    rw [hnatural]
    show number (decimal n ++ rest) = unsignedNumber false (decimal n) rest
    rw [heq] at hwhole ⊢
    simp only [number, List.cons_append, if_neg hsign] at hwhole ⊢
    rw [hwhole]
  | negSucc n =>
    have hwhole := wholeDigits?_decimal (n + 1) hrest
    have hnegative : decide (Int.negSucc n < 0) = true := decide_eq_true (Int.negSucc_lt_zero n)
    simp only [ofInt, number, List.cons_append, lit, if_true, hnegative, Int.natAbs_negSucc]
    rw [hwhole]

/-- Integers with as many digits as are converted are read back. -/
theorem number_ofInt {n : Int} (hn : (decimal n.natAbs).length ≤ Json.maxDigits) {rest : Text}
    (hrest : EndsNumeral rest) : number (ofInt n ++ rest) = .ok (.int n, rest) := by
  rw [number_eq_unsignedNumber n hrest, unsignedNumber_decimal _ hn hrest]
  have hsigned : (if decide (n < 0) then -(n.natAbs : Int) else n.natAbs) = n := by
    by_cases h : n < 0
    · simp only [h, decide_true, if_true]
      omega
    · simp only [h, decide_false, Bool.false_eq_true, if_false]
      omega
  rw [hsigned]

theorem word?_eq_none {t : Text} (h : ∀ w ∈ words.map Prod.fst, w.isPrefixOf t = false) :
    word? t = none := by
  unfold word?
  rw [List.findSome?_eq_none_iff]
  rintro ⟨w, v⟩ hp
  simp [h w (List.mem_map_of_mem hp)]

/-- No word begins with a digit, with or without a sign before it. -/
theorem words_begin : ∀ w ∈ words.map Prod.fst, ∃ c t, w = c :: t ∧ c.isDigit = false
    ∧ (c = lit '-' → ∃ d u, t = d :: u ∧ d.isDigit = false) := by
  intro w hw
  simp only [words, List.map_cons, List.map_nil, List.mem_cons, List.not_mem_nil, or_false] at hw
  rcases hw with rfl | rfl | rfl | rfl | rfl | rfl
  · exact ⟨_, _, rfl, by decide, fun h => absurd h (by decide)⟩
  · exact ⟨_, _, rfl, by decide, fun h => absurd h (by decide)⟩
  · exact ⟨_, _, rfl, by decide, fun h => absurd h (by decide)⟩
  · exact ⟨_, _, rfl, by decide, fun h => absurd h (by decide)⟩
  · exact ⟨_, _, rfl, by decide, fun h => absurd h (by decide)⟩
  · exact ⟨_, _, rfl, by decide, fun _ => ⟨_, _, rfl, by decide⟩⟩

theorem ne_of_isDigit {c d : CodePoint} (hc : c.isDigit = false) (hd : d.isDigit = true) :
    c ≠ d := by
  rintro rfl
  rw [hc] at hd
  cases hd

theorem word?_ofInt (n : Int) (rest : Text) : word? (ofInt n ++ rest) = none := by
  apply word?_eq_none
  intro w hw
  obtain ⟨c, t, rfl, hc, hminus⟩ := words_begin w hw
  obtain ⟨d, u, heq, hbegin⟩ := exists_ofInt_eq_cons n
  rw [heq]
  -- Only one word begins with a sign, and what follows there is no digit.
  rcases hbegin with hd | ⟨rfl, e, v, rfl, he⟩
  · simp [List.isPrefixOf, ne_of_isDigit hc hd]
  · by_cases hsign : c = lit '-'
    · obtain ⟨f, x, rfl, hf⟩ := hminus hsign
      simp [List.isPrefixOf, ne_of_isDigit hf he]
    · have hne : c ≠ CodePoint.ofChar '-' := hsign
      simp [List.isPrefixOf, hne]

end Parser

end ShareVault.Json
