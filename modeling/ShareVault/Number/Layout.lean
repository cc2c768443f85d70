import ShareVault.Text.Digits
import ShareVault.Number.Shortest

/-! # Layouts of decimal numbers

    A layout says how the shortest decimal of a double is written: which
    magnitudes are written without an exponent, how wide the exponent is, and
    what stands for NaN and the infinities.
-/

namespace ShareVault

/-- How doubles are written. A magnitude from `10 ^ least` to below
    `10 ^ (most + 1)` is written without an exponent. -/
structure NumberLayout where
  least : Int
  most : Int
  exponentWidth : Nat
  nan : Text
  infinity : Text
  negativeInfinity : Text

namespace NumberLayout

/-- Numbers in messages: `1e-05`, `1e+16`. -/
def message : NumberLayout :=
  { least := -4, most := 15, exponentWidth := 2
    nan := "NaN", infinity := "Infinity", negativeInfinity := "-Infinity" }

/-- Numbers in reports: as in messages, but for NaN and the infinities. -/
def report : NumberLayout :=
  { message with nan := "nan", infinity := "inf", negativeInfinity := "-inf" }

/-- Numbers in values: `0.00001`, `1e-6`, `1e+16`; JSON has no other numbers
    than the finite ones. -/
def value : NumberLayout :=
  { least := -5, most := 15, exponentWidth := 1
    nan := "null", infinity := "null", negativeInfinity := "null" }

/-- A run of `n` zeros. -/
def zeros (n : Nat) : Text := List.replicate n (CodePoint.ofChar '0')

/-- The exponent part: `e`, a sign, and at least `width` digits. -/
def exponentPart (width : Nat) (e : Int) : Text :=
  let digits := Text.decimal e.natAbs
  let sign : Text := if e < 0 then "e-" else "e+"
  sign ++ zeros (width - digits.length) ++ digits

/-- The digits of a number with its first digit at `10 ^ first`, with a point
    and at least one digit on either side of it. -/
def positional (digits : Text) (first : Int) : Text :=
  if first < 0 then "0." ++ zeros ((-first).toNat - 1) ++ digits
  else
    let whole := first.toNat + 1
    if digits.length ≤ whole then digits ++ zeros (whole - digits.length) ++ ".0"
    else digits.take whole ++ "." ++ digits.drop whole

/-- The digits of a number with a point after the first, and the exponent. -/
def scientific (width : Nat) (digits : Text) (first : Int) : Text :=
  let fraction := digits.drop 1
  digits.take 1 ++ (if fraction.isEmpty then [] else CodePoint.ofChar '.' :: fraction)
    ++ exponentPart width first

/-- The text of the magnitude `significand · 2 ^ exponent`. -/
def magnitude (l : NumberLayout) (significand : Nat) (exponent : Int) : Text :=
  let d := Binary64.shortest significand exponent
  if d.digits = 0 then "0.0"
  else
    let digits := Text.decimal d.digits
    let first := d.exponent + digits.length - 1
    if l.least ≤ first && first ≤ l.most then positional digits first
    else scientific l.exponentWidth digits first

/-- The text of a number. -/
def write (l : NumberLayout) : Binary64 → Text
  | .nan => l.nan
  | .infinity false => l.infinity
  | .infinity true => l.negativeInfinity
  | .finite s m e => (if s then "-" else "") ++ l.magnitude m e

/-- The smallest magnitude without an exponent in messages. -/
example : message.write (.ofRatio false 1 10000) = ("0.0001" : Text) := by decide +kernel

/-- Below it an exponent of two digits is written. -/
example : message.write (.ofRatio true 35 1000000) = ("-3.5e-05" : Text) := by decide +kernel

/-- Values keep one more place. -/
example : value.write (.ofRatio false 1 100000) = ("0.00001" : Text) := by decide +kernel

end NumberLayout

end ShareVault
