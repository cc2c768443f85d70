import ShareVault.Text.Basic

/-! # Spaces around texts

    The code points that Unicode counts as white space, and texts without those
    around them.

    Main statement: `trim_cons_of_isSpace`, a space in front does not matter.
-/

namespace ShareVault

/-- The code points that count as white space. -/
def CodePoint.isSpace (c : CodePoint) : Bool :=
  (0x09 ≤ c.val && c.val ≤ 0x0D) || c.val = 0x20 || c.val = 0x85 || c.val = 0xA0
    || c.val = 0x1680 || (0x2000 ≤ c.val && c.val ≤ 0x200A) || c.val = 0x2028
    || c.val = 0x2029 || c.val = 0x202F || c.val = 0x205F || c.val = 0x3000

namespace Text

/-- The text without the spaces around it. -/
def trim (t : Text) : Text := trimRight CodePoint.isSpace (t.dropWhile CodePoint.isSpace)

theorem trim_cons_of_isSpace {c : CodePoint} (h : c.isSpace = true) (t : Text) :
    trim (c :: t) = trim t := by
  simp [trim, h]

end Text

end ShareVault
