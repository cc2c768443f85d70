import ShareVault.Text.Case

/-! # Snake case

    The tag of a variant is its name in snake case: an underscore goes between
    the words of the name, and the whole is lowercased. Four rules find the
    ends of words, one after the other, each over the whole name:
    - a run of capitals ends before its last capital when a small letter follows;
    - a word ends between a small letter and a capital;
    - a word ends between a digit and a capital;
    - a word ends between a small letter and a digit.
-/

namespace ShareVault.Text

/-- The character between the words of a tag. -/
def underscore : CodePoint := CodePoint.ofChar '_'

/-- Puts an underscore between neighbours of which the first satisfies `p` and
    the second `q`. -/
def separate (p q : CodePoint → Bool) : Text → Text
  | [] => []
  | [c] => [c]
  | c :: d :: t =>
    if p c && q d then c :: underscore :: separate p q (d :: t)
    else c :: separate p q (d :: t)

/-- Puts an underscore before the last capital of each run of two or more
    capitals that a small letter follows. -/
def separateCapitals : Text → Text
  | c :: d :: e :: t =>
    if c.isUpper && d.isUpper && e.isLower then c :: underscore :: separateCapitals (d :: e :: t)
    else c :: separateCapitals (d :: e :: t)
  | t => t

/-- The snake case of a name. -/
def snakeCase (name : Text) : Text :=
  let words := separateCapitals name
  let words := separate CodePoint.isLower CodePoint.isUpper words
  let words := separate CodePoint.isDigit CodePoint.isUpper words
  let words := separate CodePoint.isLower CodePoint.isDigit words
  lower (words.map fun c => if c = CodePoint.ofChar '-' then underscore else c)

/-- Capitals before the last one of a run are a word: "http" and "server". -/
example : snakeCase "HTTPServer" = ("http_server" : Text) := by decide +kernel

/-- A digit opens a word after a small letter only. -/
example : snakeCase "Uint128MaxX1Y2" = ("uint_128_max_x1_y2" : Text) := by decide +kernel

end ShareVault.Text
