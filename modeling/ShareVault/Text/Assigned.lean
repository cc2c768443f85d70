import ShareVault.Text.Printable

/-! # Assigned code points

    The code points that Unicode 14 gives a meaning, private ones and surrogates
    included. Most of them are printable; the others are listed here.

    Main statement: `isAssigned_of_isPrintable`, what is shown has a meaning.
-/

namespace ShareVault

/-- The ranges, ends included, of the code points that have a meaning and are not
    printable. -/
def hiddenRanges : List (Nat × Nat) :=
  [
    (0x0, 0x1F), (0x7F, 0xA0), (0xAD, 0xAD), (0x600, 0x605), (0x61C, 0x61C), (0x6DD, 0x6DD),
    (0x70F, 0x70F), (0x890, 0x891), (0x8E2, 0x8E2), (0x1680, 0x1680), (0x180E, 0x180E),
    (0x2000, 0x200F), (0x2028, 0x202F), (0x205F, 0x2064), (0x2066, 0x206F), (0x3000, 0x3000),
    (0xD800, 0xF8FF), (0xFEFF, 0xFEFF), (0xFFF9, 0xFFFB), (0x110BD, 0x110BD), (0x110CD, 0x110CD),
    (0x13430, 0x13438), (0x1BCA0, 0x1BCA3), (0x1D173, 0x1D17A), (0xE0001, 0xE0001),
    (0xE0020, 0xE007F), (0xF0000, 0xFFFFD), (0x100000, 0x10FFFD)
  ]

namespace CodePoint

/-- Whether a code point has a meaning. -/
def isAssigned (c : CodePoint) : Bool := c.isPrintable || inRanges hiddenRanges c.val

theorem isAssigned_of_isPrintable {c : CodePoint} (h : c.isPrintable = true) :
    c.isAssigned = true := by
  simp [isAssigned, h]

end CodePoint

end ShareVault
