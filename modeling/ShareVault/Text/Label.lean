import ShareVault.Text.Composition
import ShareVault.Text.Joining
import ShareVault.Text.LabelDirection
import ShareVault.Text.Script

/-! # Labels of domain names

    A label is a text of code points of labels, composed with their marks, without
    hyphens at its ends. Some more code points may stand in a label where their
    neighbours allow it: a joiner between letters that would join, a dot between
    two letters of Catalan.

    ## Operations
    - `fits?`, `joinerFault?`: whether a code point has the neighbours that it needs;
    - `check`: what is wrong with a label.

    Main statement: `check_eq_ok`, no code point of a proper label has a fault.
-/

namespace ShareVault

/-- What is wrong with a label. -/
inductive LabelFault where
  /-- Its length or its form is not that of a label. -/
  | shape
  /-- A code point is not one of labels. -/
  | codePoint
  /-- A code point is in wrong surroundings. -/
  | surroundings
  /-- The directions of its code points do not go together. -/
  | direction
deriving DecidableEq, Repr

namespace Label

/-! ## Surroundings -/

/-- Whether the letters on both sides would join, marks aside. The first text is
    read backwards. -/
def wouldJoin (before after : Text) : Bool :=
  (before.dropWhile CodePoint.isTransparent).head?.any CodePoint.joinsNext
    && (after.dropWhile CodePoint.isTransparent).head?.any CodePoint.joinsPrevious

/-- Whether one of the code points that need certain neighbours has them. The text
    before it is read backwards. There is no answer for other code points. -/
def fits? (before : Text) (c : CodePoint) (after : Text) : Option Bool :=
  let ell := some (CodePoint.ofChar 'l')
  -- The middle dot of Catalan stands between two letters.
  if c.val = 0xB7 then some (before.head? == ell && after.head? == ell)
  else if c.val = 0x375 then some (after.head?.any CodePoint.isGreek)
  else if c.val = 0x5F3 || c.val = 0x5F4 then some (before.head?.any CodePoint.isHebrew)
  else if c.val = 0x30FB then
    some (before.any CodePoint.isJapanese || after.any CodePoint.isJapanese)
  -- The two rows of Arabic digits do not mix.
  else if c.isArabicDigit then
    some !(before.any CodePoint.isPersianDigit || after.any CodePoint.isPersianDigit)
  else if c.isPersianDigit then
    some !(before.any CodePoint.isArabicDigit || after.any CodePoint.isArabicDigit)
  else none

/-- The opposite of a joiner: it keeps letters from joining. -/
def isNonJoiner (c : CodePoint) : Bool := c.val = 0x200C

/-- A joiner. -/
def isJoiner (c : CodePoint) : Bool := c.val = 0x200D

/-- The ideographs of Tangut. -/
def tangutRanges : List (Nat × Nat) := [(0x17000, 0x187F7), (0x18D00, 0x18D08)]

/-- A code point without a name: one without a meaning, or an ideograph of Tangut.
    Whether a joiner may follow it is not known. -/
def isNameless (c : CodePoint) : Bool := !c.isAssigned || inRanges tangutRanges c.val

/-- What is wrong with a joiner or its opposite between two texts, of which the first
    is read backwards. -/
def joinerFault? (before : Text) (c : CodePoint) (after : Text) : Option LabelFault :=
  let afterVirama := before.head?.any CodePoint.isVirama
  if before.head?.any isNameless then some .shape
  else if afterVirama || (isNonJoiner c && wouldJoin before after) then none
  else some .surroundings

/-- What is wrong with a code point between two texts, of which the first is read
    backwards. -/
def pointFault? (before : Text) (c : CodePoint) (after : Text) : Option LabelFault :=
  if c.isLabelPoint then none
  else if isNonJoiner c || isJoiner c then joinerFault? before c after
  else match fits? before c after with
    | some ok => if ok then none else some .surroundings
    | none => some .codePoint

/-! ## Checks -/

/-- Hyphens at an end, or at the third and the fourth place. -/
def hasBadHyphens (t : Text) : Bool :=
  let hyphen := CodePoint.ofChar '-'
  t.head? == some hyphen || t.getLast? == some hyphen || (t.drop 2).take 2 == [hyphen, hyphen]

/-- The first fault of the code points of a label that follow `before`, which is
    read backwards. -/
def pointsFault? (before : Text) : Text → Option LabelFault
  | [] => none
  | c :: after =>
    match pointFault? before c after with
    | some f => some f
    | none => pointsFault? (c :: before) after

/-- The greatest length of a label that is looked at. -/
def maxLength : Nat := 254

/-- Checks a label. -/
def check (t : Text) : Except LabelFault Unit :=
  if t.isEmpty || maxLength < t.length || !t.isComposed || hasBadHyphens t
      || t.head?.any CodePoint.isMark then
    .error .shape
  else match pointsFault? [] t with
    | some f => .error f
    | none => if t.isDirected then .ok () else .error .direction

theorem pointFault?_of_pointsFault?_eq_none {before t : Text}
    (h : pointsFault? before t = none) : ∀ c ∈ t, ∃ b a, pointFault? b c a = none := by
  induction t generalizing before with
  | nil => simp
  | cons d t ih =>
    intro c hc
    simp only [pointsFault?] at h
    split at h
    · simp at h
    · next hd =>
      rcases List.mem_cons.mp hc with rfl | hc
      · exact ⟨_, _, hd⟩
      · exact ih h c hc

theorem check_eq_ok {t : Text} (h : check t = .ok ()) :
    t ≠ [] ∧ t.isDirected = true ∧ ∀ c ∈ t, ∃ b a, pointFault? b c a = none := by
  simp only [check] at h
  split at h
  · simp at h
  · next hs =>
    split at h
    · simp at h
    · next hp =>
      refine ⟨?_, ?_, pointFault?_of_pointsFault?_eq_none hp⟩
      · rintro rfl
        simp at hs
      · revert h
        cases t.isDirected <;> simp

end Label

end ShareVault
