import ShareVault.Number.Binary64
import ShareVault.Text.Digits

/-! # Numerals of double-precision numbers

    A number is written by digits with a point and an exponent, each of which may
    be missing, or by a word: infinity, its short form, or NaN. A sign may stand
    before either. The case of letters does not matter.

    ## Layers
    - `ofPlaces?`: digits on both sides of a point;
    - `ofDigits?`, `ofUnsigned?`: texts without sign;
    - `ofNumeral?`: whole texts.
-/

namespace ShareVault.Binary64

/-- The number of digits `whole`, a point, and digits `places`, times a power of
    ten; there has to be a digit. -/
def ofPlaces? (negative : Bool) (whole places : Text) (power : Int) : Option Binary64 :=
  if (whole ++ places).isDigits then
    some (ofDecimal negative (Text.digitsValue (whole ++ places)) (power - places.length))
  else none

/-- The number that digits with a point and an exponent write. -/
def ofDigits? (negative : Bool) (t : Text) : Option Binary64 :=
  let (mantissa, power) := Text.splitAt (CodePoint.ofChar 'e') t
  let (whole, places) := Text.splitAt (CodePoint.ofChar '.') mantissa
  match power with
  | none => ofPlaces? negative whole (places.getD []) 0
  | some p => p.toInt?.bind (ofPlaces? negative whole (places.getD []))

/-- The number that a text without sign writes; letters are in lower case. -/
def ofUnsigned? (negative : Bool) (t : Text) : Option Binary64 :=
  if t = Text.ofString "inf" || t = Text.ofString "infinity" then some (.infinity negative)
  else if t = Text.ofString "nan" then some .nan
  else ofDigits? negative t

/-- The number that a text writes. -/
def ofNumeral? (t : Text) : Option Binary64 :=
  let (negative, rest) := t.signAndRest
  ofUnsigned? negative rest.foldAscii

example : ofNumeral? "-.5E+1" = some (ofInt (-5)) := by decide +kernel

example : ofNumeral? "1_000" = none := by decide +kernel

end ShareVault.Binary64
