import ShareVault.Text.Basic

/-! # Numerals

    Decimal numerals of natural numbers and integers, fixed-width hexadecimal
    numerals, and the values of digit texts.

    Main statements: `digitsValue_decimal` and `toInt?_ofInt`, reading the
    decimal numeral of a number gives the number back.
-/

namespace ShareVault

namespace CodePoint

/-- The digit of a number below ten. -/
def digit (d : Nat) : CodePoint := ofNat (0x30 + d)

/-- The number written by a decimal digit. -/
def digitValue (c : CodePoint) : Nat := c.val - 0x30

/-- The lowercase hexadecimal digit of a number below sixteen. -/
def hexDigit (d : Nat) : CodePoint := if d < 10 then ofNat (0x30 + d) else ofNat (0x57 + d)

/-- The number written by a hexadecimal digit of either case. -/
def hexValue? (c : CodePoint) : Option Nat :=
  if c.isDigit then some (c.val - 0x30)
  else if 0x61 ≤ c.val && c.val ≤ 0x66 then some (c.val - 0x57)
  else if 0x41 ≤ c.val && c.val ≤ 0x46 then some (c.val - 0x37)
  else none

theorem digit_isDigit : ∀ d, d < 10 → (digit d).isDigit = true := by decide

theorem digitValue_digit : ∀ d, d < 10 → (digit d).digitValue = d := by decide

theorem hexValue?_hexDigit : ∀ d, d < 16 → (hexDigit d).hexValue? = some d := by decide

end CodePoint

namespace Text

/-! ## Decimal numerals -/

/-- The decimal numeral of `n`, without leading zeros. -/
def decimal (n : Nat) : Text :=
  if n < 10 then [CodePoint.digit n]
  else decimal (n / 10) ++ [CodePoint.digit (n % 10)]
termination_by n
decreasing_by omega

/-- The decimal numeral of an integer, with a minus sign when negative. -/
def ofInt : Int → Text
  | .ofNat n => decimal n
  | .negSucc n => CodePoint.ofChar '-' :: decimal (n + 1)

/-- The number that a text of decimal digits writes. -/
def digitsValue (t : Text) : Nat :=
  t.foldl (fun n c => 10 * n + c.digitValue) 0

/-- A sign at the start of a text, as whether it is negative, and the rest. -/
def signAndRest : Text → Bool × Text
  | c :: rest =>
    if c = CodePoint.ofChar '-' then (true, rest)
    else if c = CodePoint.ofChar '+' then (false, rest)
    else (false, c :: rest)
  | [] => (false, [])

/-- One or more decimal digits and nothing else. -/
def isDigits (t : Text) : Bool := !t.isEmpty && t.all CodePoint.isDigit

/-- The integer that a sign and decimal digits write. -/
def toInt? (t : Text) : Option Int :=
  let (negative, ds) := signAndRest t
  if ds.isDigits then some (if negative then -(digitsValue ds : Int) else digitsValue ds)
  else none

theorem digitsValue_append_digit (t : Text) (d : CodePoint) :
    digitsValue (t ++ [d]) = 10 * digitsValue t + d.digitValue := by
  simp [digitsValue]

theorem digitsValue_decimal (n : Nat) : digitsValue (decimal n) = n := by
  induction n using Nat.strongRecOn with
  | _ n ih =>
    rw [decimal]
    split
    · next h => simp [digitsValue, CodePoint.digitValue_digit n h]
    · next h =>
      rw [digitsValue_append_digit, ih (n / 10) (by omega),
        CodePoint.digitValue_digit _ (by omega)]
      omega

theorem decimal_ne_nil (n : Nat) : decimal n ≠ [] := by
  rw [decimal]; split <;> simp

theorem decimal_all_isDigit (n : Nat) : (decimal n).all CodePoint.isDigit = true := by
  induction n using Nat.strongRecOn with
  | _ n ih =>
    rw [decimal]
    split
    · next h => simp [CodePoint.digit_isDigit n h]
    · next h =>
      rw [List.all_append, ih (n / 10) (by omega)]
      simp [CodePoint.digit_isDigit _ (show n % 10 < 10 by omega)]

theorem isDigits_decimal (n : Nat) : (decimal n).isDigits = true := by
  simp only [isDigits, decimal_all_isDigit, Bool.and_true]
  cases h : decimal n with
  | nil => exact absurd h (decimal_ne_nil n)
  | cons => rfl

theorem signAndRest_of_isDigits {t : Text} (h : t.isDigits = true) :
    signAndRest t = (false, t) := by
  cases t with
  | nil => rfl
  | cons c t =>
    have hc : c.isDigit = true := by
      simp only [isDigits, List.all_cons, Bool.and_eq_true] at h
      exact h.2.1
    -- A digit is neither of the signs.
    have hm : c ≠ CodePoint.ofChar '-' := by rintro rfl; exact absurd hc (by decide)
    have hp : c ≠ CodePoint.ofChar '+' := by rintro rfl; exact absurd hc (by decide)
    simp [signAndRest, hm, hp]

theorem toInt?_ofInt (n : Int) : toInt? (ofInt n) = some n := by
  cases n with
  | ofNat n =>
    simp [toInt?, ofInt, signAndRest_of_isDigits (isDigits_decimal n), isDigits_decimal,
      digitsValue_decimal]
  | negSucc n =>
    simp [toInt?, ofInt, signAndRest, isDigits_decimal, digitsValue_decimal]
    omega

/-! ## Hexadecimal numerals of fixed width -/

/-- The last `width` hexadecimal digits of `n`. -/
def hex (width n : Nat) : Text :=
  match width with
  | 0 => []
  | w + 1 => hex w (n / 16) ++ [CodePoint.hexDigit (n % 16)]

/-- The number that a text of hexadecimal digits writes. -/
def hexValue? (t : Text) : Option Nat :=
  t.foldlM (fun n c => (16 * n + ·) <$> c.hexValue?) 0

/-- The bytes whose two-digit hexadecimal numerals make up the text. -/
def hexBytes? : Text → Option Bytes
  | [] => some []
  | [_] => none
  | a :: b :: t => do
    let n ← hexValue? [a, b]
    return UInt8.ofNat n :: (← hexBytes? t)

/-- Two hexadecimal digits a byte. -/
def ofBytesHex (b : Bytes) : Text := b.flatMap fun x => hex 2 x.toNat

end Text

end ShareVault
