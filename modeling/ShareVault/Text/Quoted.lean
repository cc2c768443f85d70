import ShareVault.Text.Digits
import ShareVault.Text.Printable

/-! # Quoted texts

    How reports show a text: between quotes, with whatever is not printable
    replaced by an escape. Apostrophes enclose the text unless it holds an
    apostrophe and no double quote. Byte strings and records are shown alike.
-/

namespace ShareVault.Text

/-- The quote that encloses a text with these code points. -/
def enclosingQuote (t : Text) : CodePoint :=
  if t.contains (CodePoint.ofChar '\'') && !t.contains (CodePoint.ofChar '"')
  then CodePoint.ofChar '"'
  else CodePoint.ofChar '\''

/-- The shortest escape by number: two, four or eight hexadecimal digits. -/
def numberEscape (n : Nat) : Text :=
  if n < 0x100 then "\\x" ++ hex 2 n
  else if n < 0x10000 then "\\u" ++ hex 4 n
  else "\\U" ++ hex 8 n

/-- A code point as it stands between the quotes `q`. -/
def quotedPoint (q c : CodePoint) : Text :=
  if c = q || c = CodePoint.ofChar '\\' then [CodePoint.ofChar '\\', c]
  else if c = CodePoint.ofChar '\t' then "\\t"
  else if c = CodePoint.ofChar '\n' then "\\n"
  else if c = CodePoint.ofChar '\r' then "\\r"
  else if c.isPrintable then [c]
  else numberEscape c.val

/-- A text as a report shows it. -/
def quoted (t : Text) : Text :=
  let q := enclosingQuote t
  q :: t.flatMap (quotedPoint q) ++ [q]

/-- A byte string as a report shows it: a `b` and its bytes as ASCII code
    points, those beyond ASCII by number. -/
def quotedBytes (b : Bytes) : Text :=
  let t : Text := b.map fun x => CodePoint.ofNat x.toNat
  let q := enclosingQuote t
  let point (c : CodePoint) : Text := if c.isAscii then quotedPoint q c else numberEscape c.val
  CodePoint.ofChar 'b' :: q :: t.flatMap point ++ [q]

/-- A record as a report shows it: its name, and its fields in parentheses. -/
def record (name : Text) (fields : List (Text × Text)) : Text :=
  name ++ "(" ++ join ", " (fields.map fun f => f.1 ++ "=" ++ f.2) ++ ")"

example : record "Span" [("low", "1"), ("high", "2")] = ("Span(low=1, high=2)" : Text) := by
  decide +kernel

end ShareVault.Text
