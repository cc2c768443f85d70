import ShareVault.Text.Blank
import ShareVault.Text.Digits

/-! # Integers as people write them

    An integer with spaces around it, a sign, digits of any script, and single
    underscores between the digits.

    Main statement: `decimalValue?_eq_some_lt`, a digit stands for a number below
    ten.
-/

namespace ShareVault

/-- The zeros of the decimal digits of Unicode 14; each is followed by the other
    nine digits of its script. -/
def zeroDigits : List Nat :=
  [
    0x30, 0x660, 0x6F0, 0x7C0, 0x966, 0x9E6, 0xA66, 0xAE6, 0xB66, 0xBE6, 0xC66, 0xCE6, 0xD66, 0xDE6,
    0xE50, 0xED0, 0xF20, 0x1040, 0x1090, 0x17E0, 0x1810, 0x1946, 0x19D0, 0x1A80, 0x1A90, 0x1B50,
    0x1BB0, 0x1C40, 0x1C50, 0xA620, 0xA8D0, 0xA900, 0xA9D0, 0xA9F0, 0xAA50, 0xABF0, 0xFF10, 0x104A0,
    0x10D30, 0x11066, 0x110F0, 0x11136, 0x111D0, 0x112F0, 0x11450, 0x114D0, 0x11650, 0x116C0,
    0x11730, 0x118E0, 0x11950, 0x11C50, 0x11D50, 0x11DA0, 0x16A60, 0x16AC0, 0x16B50, 0x1D7CE,
    0x1D7D8, 0x1D7E2, 0x1D7EC, 0x1D7F6, 0x1E140, 0x1E2F0, 0x1E950, 0x1FBF0
  ]

/-- The number below ten that a digit of any script stands for. -/
def CodePoint.decimalValue? (c : CodePoint) : Option Nat :=
  (zeroDigits.find? fun z => z ≤ c.val && c.val ≤ z + 9).map fun z => c.val - z

theorem CodePoint.decimalValue?_eq_some_lt {c : CodePoint} {d : Nat}
    (h : c.decimalValue? = some d) : d < 10 := by
  simp only [decimalValue?, Option.map_eq_some_iff] at h
  obtain ⟨z, hz, rfl⟩ := h
  have := List.find?_some hz
  simp only [Bool.and_eq_true, decide_eq_true_eq] at this
  omega

namespace Text

/-- The values of digits among which single underscores may stand. -/
def looseDigits? (afterDigit : Bool) : Text → Option (List Nat)
  | [] => if afterDigit then some [] else none
  | c :: rest =>
    if c = CodePoint.ofChar '_' then
      if afterDigit then looseDigits? false rest else none
    else do
      let d ← c.decimalValue?
      let ds ← looseDigits? true rest
      some (d :: ds)

/-- The integer that a text writes, of at most `limit` digits. -/
def looseInt? (limit : Nat) (t : Text) : Option Int :=
  let (negative, rest) := t.trim.signAndRest
  match looseDigits? false rest with
  | some ds =>
    if limit < ds.length then none
    else
      let n : Int := (ds.foldl (fun n d => 10 * n + d) 0 : Nat)
      some (if negative then -n else n)
  | none => none

example : looseInt? 10 " +4_43 " = some 443 := by decide +kernel

example : looseInt? 10 "4__43" = none := by decide +kernel

end Text

end ShareVault
