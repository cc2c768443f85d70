/-! # Texts as sequences of code points

    A `Text` is a list of Unicode code points. Unlike `String` it can hold a
    surrogate on its own: JSON escapes can spell one, and such a text must be
    kept, compared and written back unchanged.

    Main statements:
    - `CodePoint.join_isSurrogate`: two surrogate halves join to a code point
      outside the surrogate range;
    - `Text.isWellFormed_append`: well-formedness is checked part by part.
-/

namespace ShareVault

/-! ## Code points -/

/-- A Unicode code point, surrogates included. -/
abbrev CodePoint := Fin 0x110000

/-- A sequence of code points. -/
abbrev Text := List CodePoint

/-- A sequence of bytes. -/
abbrev Bytes := List UInt8

/-- Whether a number is in one of several ranges, ends included. -/
def inRanges (ranges : List (Nat × Nat)) (n : Nat) : Bool :=
  ranges.any fun (a, b) => a ≤ n && n ≤ b

namespace CodePoint

/-- The code point with number `n`; numbers beyond the last code point wrap. -/
def ofNat (n : Nat) : CodePoint := Fin.ofNat 0x110000 n

/-- The code point of a character. -/
def ofChar (c : Char) : CodePoint := ofNat c.toNat

/-- The first half of a surrogate pair. -/
def isHighSurrogate (c : CodePoint) : Bool := 0xD800 ≤ c.val && c.val ≤ 0xDBFF

/-- The second half of a surrogate pair. -/
def isLowSurrogate (c : CodePoint) : Bool := 0xDC00 ≤ c.val && c.val ≤ 0xDFFF

/-- A code point that is half of a surrogate pair and no character by itself. -/
def isSurrogate (c : CodePoint) : Bool := 0xD800 ≤ c.val && c.val ≤ 0xDFFF

/-- The supplementary code point written by a surrogate pair. -/
def join (high low : CodePoint) : CodePoint :=
  ofNat (0x10000 + (high.val - 0xD800) * 0x400 + (low.val - 0xDC00))

theorem join_isSurrogate {high low : CodePoint} (hh : high.isHighSurrogate = true)
    (hl : low.isLowSurrogate = true) : (join high low).isSurrogate = false := by
  simp only [isHighSurrogate, isLowSurrogate, Bool.and_eq_true, decide_eq_true_eq] at hh hl
  have hv : (join high low).val = 0x10000 + (high.val - 0xD800) * 0x400 + (low.val - 0xDC00) := by
    simp only [join, ofNat, Fin.ofNat]
    omega
  simp only [isSurrogate, hv, Bool.and_eq_false_iff, decide_eq_false_iff_not]
  omega

/-- A decimal digit of ASCII. -/
def isDigit (c : CodePoint) : Bool := 0x30 ≤ c.val && c.val ≤ 0x39

/-- An uppercase letter of ASCII. -/
def isUpper (c : CodePoint) : Bool := 0x41 ≤ c.val && c.val ≤ 0x5A

/-- A lowercase letter of ASCII. -/
def isLower (c : CodePoint) : Bool := 0x61 ≤ c.val && c.val ≤ 0x7A

/-- A code point of ASCII. -/
def isAscii (c : CodePoint) : Bool := c.val < 0x80

/-- A letter of ASCII without its case. -/
def foldAscii (c : CodePoint) : CodePoint := if c.isUpper then ofNat (c.val + 0x20) else c

end CodePoint

/-! ## Texts -/

namespace Text

/-- The code points of a string. -/
def ofString (s : String) : Text := s.toList.map CodePoint.ofChar

/-- The string of a text; a surrogate, which no string can hold, becomes the
    replacement character. -/
def toString (t : Text) : String :=
  String.ofList (t.map fun c => if c.isSurrogate then '\uFFFD' else Char.ofNat c.val)

/-- A text with no surrogate, so one that every encoding can write. -/
def isWellFormed (t : Text) : Bool := t.all fun c => !c.isSurrogate

@[simp] theorem isWellFormed_nil : isWellFormed [] = true := rfl

@[simp] theorem isWellFormed_append (s t : Text) :
    isWellFormed (s ++ t) = (isWellFormed s && isWellFormed t) := by
  simp [isWellFormed]

/-- The text with the letters of ASCII in lower case. -/
def foldAscii (t : Text) : Text := t.map CodePoint.foldAscii

/-- The parts joined with `sep` between neighbours. -/
def join (sep : Text) : List Text → Text
  | [] => []
  | [t] => t
  | t :: ts => t ++ sep ++ join sep ts

/-- What is left of `t` without the characters of `p` at its end. -/
def trimRight (p : CodePoint → Bool) (t : Text) : Text :=
  (t.reverse.dropWhile p).reverse

/-- The part of `t` before the first `sep`, and the part after it when there
    is one. -/
def splitAt (sep : CodePoint) : Text → Text × Option Text
  | [] => ([], none)
  | c :: t =>
    if c = sep then ([], some t)
    else let (a, b) := splitAt sep t; (c :: a, b)

/-- The parts of `t` between the occurrences of `sep`. -/
def splitOn (sep : CodePoint) : Text → List Text
  | [] => [[]]
  | c :: t =>
    if c = sep then [] :: splitOn sep t
    else match splitOn sep t with
      | [] => [[c]]
      | p :: ps => (c :: p) :: ps

theorem splitOn_ne_nil (sep : CodePoint) (t : Text) : splitOn sep t ≠ [] := by
  cases t with
  | nil => simp [splitOn]
  | cons c t =>
    simp only [splitOn]
    split
    · simp
    · split <;> simp

theorem join_splitOn (sep : CodePoint) (t : Text) : join [sep] (splitOn sep t) = t := by
  induction t with
  | nil => rfl
  | cons c t ih =>
    simp only [splitOn]
    cases h : splitOn sep t with
    | nil => exact absurd h (splitOn_ne_nil sep t)
    | cons p ps =>
      rw [h] at ih
      split
      · next hc => simp [join, ih, hc]
      -- The code point goes in front of the first part.
      · cases ps <;> simp_all [join]

end Text

instance : Coe String Text := ⟨Text.ofString⟩

end ShareVault
