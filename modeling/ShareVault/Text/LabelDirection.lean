import ShareVault.Text.LabelPoint
import ShareVault.Text.Mark

/-! # Directions of writing in domain labels

    Letters are written to the right or to the left. In a label with code points
    that are written to the left, the first one is such a letter, none is written
    to the right, the last one besides marks is a letter or a digit, and there is
    only one kind of digits. The direction of each code point has to be known.

    Main statement: `isDirected_of_isLeftward`, the first code point of such a label
    is a letter that is written to the left.
-/

namespace ShareVault

/-! ## Tables -/

/-- Ranges, ends included, of the letters that are written to the left; between
    them a range may have code points that are none of labels. -/
def leftwardRanges : List (Nat × Nat) :=
  [
    (0x5D0, 0x5F4), (0x620, 0x64A), (0x66E, 0x66F), (0x671, 0x6D5), (0x6E5, 0x6E6), (0x6EE, 0x710),
    (0x712, 0x72F), (0x74D, 0x7A5), (0x7B1, 0x7EA), (0x7F4, 0x7F5), (0x800, 0x815), (0x81A, 0x81A),
    (0x824, 0x824), (0x828, 0x828), (0x840, 0x858), (0x860, 0x88E), (0x8A0, 0x8C9),
    (0xFE73, 0xFE73), (0x10800, 0x10A00), (0x10A10, 0x10A35), (0x10A60, 0x10AE4),
    (0x10B00, 0x10D23), (0x10E80, 0x10EA9), (0x10EB0, 0x10F45), (0x10F70, 0x10F81),
    (0x10FB0, 0x10FF6), (0x1E800, 0x1E8C4), (0x1E922, 0x1E943), (0x1E94B, 0x1E959)
  ]

/-- Marks without a width that are written to the right like letters. -/
def rightwardMarks : List Nat := [0xCBF, 0xCC6, 0x11A07, 0x11A08, 0x11C3F]

/-! ## Directions -/

/-- How a code point is written. -/
inductive Direction where
  /-- A letter that is written to the right. -/
  | rightward
  /-- A letter that is written to the left. -/
  | leftward
  /-- A digit of a number among letters of either direction. -/
  | number
  /-- A digit of a number among letters that are written to the left. -/
  | leftwardNumber
  /-- A mark, which takes the direction of the code point before it. -/
  | mark
  /-- What has no direction of its own. -/
  | neutral
deriving DecidableEq, Repr

namespace CodePoint

/-- The first of the two rows of Arabic digits. -/
def isArabicDigit (c : CodePoint) : Bool := 0x660 ≤ c.val && c.val ≤ 0x669

/-- The second of the two rows of Arabic digits. -/
def isPersianDigit (c : CodePoint) : Bool := 0x6F0 ≤ c.val && c.val ≤ 0x6F9

/-- Signs and letters without a direction, the joiners among them. -/
def isNeutral (c : CodePoint) : Bool :=
  c = ofChar '-' || c.val = 0xB7 || c.val = 0x2B9 || c.val = 0x2BA
    || (0x2C6 ≤ c.val && c.val ≤ 0x2CF) || c.val = 0x2EC || c.val = 0x375 || c.val = 0x200C
    || c.val = 0x200D || c.val = 0x2E2F || c.val = 0x30FB || c.val = 0xA67F
    || (0xA717 ≤ c.val && c.val ≤ 0xA71F) || c.val = 0xA788

/-- How a code point of labels is written. -/
def direction (c : CodePoint) : Direction :=
  if c.isDigit || c.isPersianDigit then .number
  else if c.isArabicDigit || (0x10D30 ≤ c.val && c.val ≤ 0x10D39) then .leftwardNumber
  else if c.isNonspacing && !rightwardMarks.contains c.val then .mark
  else if inRanges leftwardRanges c.val then .leftward
  else if c.isNeutral then .neutral
  else .rightward

end CodePoint

namespace Text

/-- Whether some code point of a label is written to the left. -/
def isLeftward (t : Text) : Bool :=
  t.any fun c => c.direction = .leftward || c.direction = .leftwardNumber

/-- Whether the last code point besides marks is a letter that is written to the
    left, or a digit. -/
def endsLeftward (t : Text) : Bool :=
  match (t.map CodePoint.direction).reverse.dropWhile (· = .mark) with
  | .leftward :: _ => true
  | .number :: _ => true
  | .leftwardNumber :: _ => true
  | _ => false

/-- Whether the directions of a label are known and it keeps to the rules for code
    points that are written to the left, if it has any. -/
def isDirected (t : Text) : Bool :=
  let has (d : Direction) : Bool := t.any fun c => c.direction = d
  t.all CodePoint.isAssigned
    && (!t.isLeftward
      || (t.head?.any (fun c => c.direction = .leftward) && !has .rightward
        && !(has .number && has .leftwardNumber) && t.endsLeftward))

theorem isDirected_of_isLeftward {t : Text} (h : t.isDirected = true)
    (hl : t.isLeftward = true) : ∃ c rest, t = c :: rest ∧ c.direction = .leftward := by
  simp only [isDirected, hl, Bool.not_true, Bool.false_or, Bool.and_eq_true] at h
  obtain ⟨-, ⟨⟨hc, -⟩, -⟩, -⟩ := h
  cases t with
  | nil => simp at hc
  | cons c rest => exact ⟨c, rest, rfl, by simpa using hc⟩

end Text

end ShareVault
