import ShareVault.Json.Basic

/-! # Reading JSON text

    The grammar of JSON with three more numbers, `NaN`, `Infinity` and
    `-Infinity`, and with surrogate escapes that need no partner. A number
    without fraction and exponent is an integer of any size, up to a limit on
    its digits. Of members with equal keys the last value counts.

    Values may be nested as deep as the reader has room for. Where the next array or
    object does not fit any more, reading ends at once, whatever comes after.

    A fault is reported at the place where reading had to stop, counted in code
    points, together with its line and column.

    ## Layers
    - `Parser.literalText`: the inside of a quoted text;
    - `Parser.number`: the longest number at the start of a text;
    - `Parser.value`: a value, by recursion on a bound for the number of values
      still to come; every value takes a code point, so the length of the text
      is such a bound;
    - `Json.parse`: a whole text;
    - `Json.written?`: a whole text with all members of its objects, also those
      that later ones with equal keys replace.
-/

namespace ShareVault

/-! ## Faults -/

/-- What a JSON text lacks at the place where reading stops. -/
inductive JsonProblem where
  | expectingValue
  | expectingKey
  | expectingColon
  | expectingComma
  | extraData
  | unterminatedText
  | controlCharacter
  | badEscape
  | badUnicodeEscape
  | byteOrderMark
deriving DecidableEq, Repr

/-- The wording of a problem. -/
def JsonProblem.message : JsonProblem → Text
  | .expectingValue => "Expecting value"
  | .expectingKey => "Expecting property name enclosed in double quotes"
  | .expectingColon => "Expecting ':' delimiter"
  | .expectingComma => "Expecting ',' delimiter"
  | .extraData => "Extra data"
  | .unterminatedText => "Unterminated string starting at"
  | .controlCharacter => "Invalid control character at"
  | .badEscape => "Invalid \\escape"
  | .badUnicodeEscape => "Invalid \\uXXXX escape"
  | .byteOrderMark => "Unexpected UTF-8 BOM (decode using utf-8-sig)"

/-- A problem and its place: the number of code points before it, its line, and
    its column in that line, the last two counted from one. -/
structure JsonFault where
  problem : JsonProblem
  offset : Nat
  line : Nat
  column : Nat
deriving DecidableEq, Repr

namespace JsonFault

/-- The fault of a problem at an offset of a text. -/
def locate (text : Text) (problem : JsonProblem) (offset : Nat) : JsonFault :=
  let before := text.take offset
  let newline := CodePoint.ofChar '\n'
  { problem := problem
    offset := offset
    line := before.count newline + 1
    column := (before.reverse.takeWhile (· ≠ newline)).length + 1 }

/-- The wording of a fault. -/
def message (f : JsonFault) : Text :=
  f.problem.message ++ ": line " ++ Text.decimal f.line ++ " column " ++ Text.decimal f.column
    ++ " (char " ++ Text.decimal f.offset ++ ")"

end JsonFault

/-- Why a JSON text cannot be read. -/
inductive JsonError where
  /-- The text breaks the grammar. -/
  | malformed (fault : JsonFault)
  /-- An integer has more digits than `Json.maxDigits`. -/
  | numeralTooLong
  /-- The bytes are no text in the encoding they announce. -/
  | undecodable
  /-- There is no room for an array or an object. -/
  | tooDeep
deriving DecidableEq, Repr

/-- How deep a reader can go into arrays and objects. -/
inductive Json.Room where
  /-- As deep as a text goes. -/
  | unlimited
  /-- Into so many of them, one inside the other. -/
  | levels (n : Nat)
deriving DecidableEq, Repr

/-- The room inside an array or an object, if there is room for it. -/
def Json.Room.inside? : Json.Room → Option Json.Room
  | .unlimited => some .unlimited
  | .levels 0 => none
  | .levels (n + 1) => some (.levels n)

theorem Json.Room.inside?_unlimited : Json.Room.unlimited.inside? = some .unlimited := rfl

/-- The greatest number of digits that a numeral is converted with. -/
def Json.maxDigits : Nat := 4300

/-- Whether an integer has a numeral of no more digits than are converted. -/
def Json.isConvertible (n : Int) : Bool := n.natAbs < tenTo Json.maxDigits

namespace Json.Parser

/-- Where reading stops: at a problem, with the number of code points from its
    place to the end of the text, at a numeral that is too long, or at an array or an
    object that there is no room for. -/
inductive Stop where
  | problem (p : JsonProblem) (left : Nat)
  | numeralTooLong
  | tooDeep
deriving DecidableEq, Repr

/-- What is read from the start of a text, and the rest of the text. -/
abbrev Parsed (α : Type) := Except Stop (α × Text)

/-- Stops at the start of `rest`. -/
def stop {α : Type} (p : JsonProblem) (rest : Text) : Except Stop α :=
  .error (.problem p rest.length)

/-- A character of the grammar. -/
def lit (c : Char) : CodePoint := CodePoint.ofChar c

/-! ## Blanks -/

/-- Space, tab, line feed or carriage return. -/
def isBlank (c : CodePoint) : Bool :=
  c.val = 0x20 || c.val = 0x09 || c.val = 0x0A || c.val = 0x0D

/-- The text from its first code point that is not blank. -/
def skipBlanks (t : Text) : Text := t.dropWhile isBlank

/-! ## Quoted texts -/

/-- The code point that a letter after a backslash stands for. -/
def escaped? (c : CodePoint) : Option CodePoint :=
  if c = lit '"' || c = lit '\\' || c = lit '/' then some c
  else if c = lit 'b' then some (CodePoint.ofNat 0x08)
  else if c = lit 'f' then some (CodePoint.ofNat 0x0C)
  else if c = lit 'n' then some (CodePoint.ofNat 0x0A)
  else if c = lit 'r' then some (CodePoint.ofNat 0x0D)
  else if c = lit 't' then some (CodePoint.ofNat 0x09)
  else none

/-- Adds a code point that an escape wrote to the text read so far, which is
    kept backwards. The second half of a surrogate pair joins the first half
    when an escape wrote that as well, as `afterHigh` tells. -/
def pushEscaped (acc : Text) (afterHigh : Bool) (c : CodePoint) : Text :=
  match acc with
  | high :: acc' =>
    if afterHigh && c.isLowSurrogate then CodePoint.join high c :: acc' else c :: acc
  | [] => [c]

/-- Reads the inside of a quoted text up to the closing quote. `opening` is the
    number of code points from the opening quote to the end of the whole text.
    A four-digit escape must have a code point after it. -/
def literalText (opening : Nat) (acc : Text) (afterHigh : Bool) : Text → Parsed Text
  | [] => .error (.problem .unterminatedText opening)
  | c :: t =>
    if c = lit '"' then .ok (acc.reverse, t)
    else if c = lit '\\' then
      match t with
      | [] => .error (.problem .unterminatedText opening)
      | e :: u =>
        if e = lit 'u' then
          match u with
          | h1 :: h2 :: h3 :: h4 :: r =>
            -- Any code point may follow, the closing quote as well.
            match Text.hexValue? [h1, h2, h3, h4], r with
            | some n, _ :: _ =>
              let point := CodePoint.ofNat n
              literalText opening (pushEscaped acc afterHigh point) point.isHighSurrogate r
            | _, _ => stop .badUnicodeEscape (e :: u)
          | _ => stop .badUnicodeEscape (e :: u)
        else match escaped? e with
          | some point => literalText opening (point :: acc) false u
          | none => stop .badEscape (c :: t)
    else if c.val < 0x20 then stop .controlCharacter (c :: t)
    else literalText opening (c :: acc) false t

/-! ## Numbers -/

/-- The digits at the start of a text, and the rest. -/
def digits (t : Text) : Text × Text :=
  (t.takeWhile CodePoint.isDigit, t.dropWhile CodePoint.isDigit)

/-- A point and at least one digit, if they follow. -/
def fraction? : Text → Option (Text × Text)
  | c :: d :: t => if c = lit '.' && d.isDigit then some (digits (d :: t)) else none
  | _ => none

/-- An exponent sign and its digits, if they follow. -/
def exponent? : Text → Option (Int × Text)
  | c :: t =>
    if c = lit 'e' || c = lit 'E' then
      let (negative, t) : Bool × Text := match t with
        | s :: u =>
          if s = lit '-' then (true, u) else if s = lit '+' then (false, u) else (false, t)
        | [] => (false, t)
      match digits t with
      | ([], _) => none
      | (ds, rest) =>
        let n : Int := Text.digitsValue ds
        some (if negative then -n else n, rest)
    else none
  | [] => none

/-- The digits before the point: a zero alone, or any that start otherwise. -/
def wholeDigits? : Text → Option (Text × Text)
  | c :: t =>
    if c = lit '0' then some ([c], t)
    else if c.isDigit then some (digits (c :: t))
    else none
  | [] => none

/-- A number after its sign. -/
def unsignedNumber (negative : Bool) (whole rest : Text) : Parsed Json :=
  let fraction := fraction? rest
  let afterFraction := match fraction with
    | some (_, r) => r
    | none => rest
  let exponent := exponent? afterFraction
  match fraction, exponent with
  -- Neither a point nor an exponent: an integer of any size.
  | none, none =>
    if Json.maxDigits < whole.length then .error .numeralTooLong
    else
      let n : Int := Text.digitsValue whole
      .ok (.int (if negative then -n else n), rest)
  | _, _ =>
    let places := match fraction with
      | some (ds, _) => ds
      | none => []
    let (power, afterExponent) := match exponent with
      | some p => p
      | none => (0, afterFraction)
    .ok (.float (Binary64.ofDecimal negative (Text.digitsValue (whole ++ places))
      (power - places.length)), afterExponent)

/-- The longest number at the start of a text. -/
def number (t : Text) : Parsed Json :=
  let (negative, body) : Bool × Text := match t with
    | c :: u => if c = lit '-' then (true, u) else (false, t)
    | [] => (false, t)
  match wholeDigits? body with
  | some (whole, rest) => unsignedNumber negative whole rest
  | none => stop .expectingValue t

/-! ## Values -/

/-- The words that are values. -/
def words : List (Text × Json) :=
  [("null", .null), ("true", .bool true), ("false", .bool false), ("NaN", .float .nan),
    ("Infinity", .float (.infinity false)), ("-Infinity", .float (.infinity true))]

/-- The word at the start of a text. -/
def word? (t : Text) : Option (Json × Text) :=
  words.findSome? fun (w, v) => if w.isPrefixOf t then some (v, t.drop w.length) else none

/-- How a member comes to those before it: its key, its value, and they. -/
abbrev Collect := Text → Json → Members → Members

mutual

/-- Reads a value, of which at most `fuel` may be nested or follow. -/
def value (collect : Collect) (room : Room) (fuel : Nat) (t : Text) : Parsed Json :=
  match fuel with
  | 0 => stop .expectingValue t
  | fuel + 1 =>
    match t with
    | [] => stop .expectingValue t
    | c :: u =>
      if c = lit '"' then
        match literalText t.length [] false u with
        | .ok (s, rest) => .ok (.text s, rest)
        | .error e => .error e
      else if c.val = 0x7B then
        match room.inside?, skipBlanks u with
        | none, _ => .error .tooDeep
        | some inside, d :: rest =>
          if d.val = 0x7D then .ok (.object [], rest)
          else members collect inside fuel [] (d :: rest)
        | some _, [] => stop .expectingKey []
      else if c = lit '[' then
        match room.inside?, skipBlanks u with
        | none, _ => .error .tooDeep
        | some inside, d :: rest =>
          if d = lit ']' then .ok (.array [], rest)
          else elements collect inside fuel [] (d :: rest)
        | some _, [] => stop .expectingValue []
      else match word? t with
        | some (v, rest) => .ok (v, rest)
        | none => number t

/-- Reads the members of an object from a key on; those before it are given, and the
    room is that for their values. -/
def members (collect : Collect) (room : Room) (fuel : Nat) (before : Members) (t : Text) :
    Parsed Json :=
  match fuel with
  | 0 => stop .expectingValue t
  | fuel + 1 =>
    match t with
    | [] => stop .expectingKey t
    | c :: u =>
      if c = lit '"' then
        match literalText t.length [] false u with
        | .error e => .error e
        | .ok (key, afterKey) =>
          match skipBlanks afterKey with
          | [] => stop .expectingColon []
          | d :: afterColon =>
            if d = lit ':' then
              match value collect room fuel (skipBlanks afterColon) with
              | .error e => .error e
              | .ok (v, afterValue) =>
                match skipBlanks afterValue with
                | [] => stop .expectingComma []
                | e :: rest =>
                  if e.val = 0x7D then .ok (.object (collect key v before), rest)
                  else if e = lit ',' then
                    members collect room fuel (collect key v before) (skipBlanks rest)
                  else stop .expectingComma (e :: rest)
            else stop .expectingColon (d :: afterColon)
      else stop .expectingKey t

/-- Reads the items of an array from a value on; those before it are given,
    the last one first, and the room is that for each item. -/
def elements (collect : Collect) (room : Room) (fuel : Nat) (before : List Json) (t : Text) :
    Parsed Json :=
  match fuel with
  | 0 => stop .expectingValue t
  | fuel + 1 =>
    match value collect room fuel t with
    | .error e => .error e
    | .ok (v, afterValue) =>
      match skipBlanks afterValue with
      | [] => stop .expectingComma []
      | e :: rest =>
        if e = lit ']' then .ok (.array (v :: before).reverse, rest)
        else if e = lit ',' then elements collect room fuel (v :: before) (skipBlanks rest)
        else stop .expectingComma (e :: rest)

end

/-- Reads a value with blanks around it and nothing else. -/
def document (collect : Collect) (room : Room) (t : Text) : Except Stop Json :=
  -- Every value takes a code point, and so does what goes before the next one.
  match value collect room (2 * t.length + 1) (skipBlanks t) with
  | .error e => .error e
  | .ok (v, rest) =>
    match skipBlanks rest with
    | [] => .ok v
    | extra => stop .extraData extra

end Json.Parser

/-! ## Whole texts -/

namespace Json

/-- Gives a stop its place in the whole text. -/
def Parser.Stop.error (text : Text) : Parser.Stop → JsonError
  | .problem p left => .malformed (JsonFault.locate text p (text.length - left))
  | .numeralTooLong => .numeralTooLong
  | .tooDeep => .tooDeep

/-- The value that a text writes, whatever its first code point. -/
def parseText (room : Room) (t : Text) : Except JsonError Json :=
  (Parser.document Members.set room t).mapError (Parser.Stop.error t)

/-- The value that a text writes with all members of its objects, those with equal
    keys beside one another's. -/
def written? (t : Text) : Option Json :=
  (Parser.document (fun key v before => before ++ [(key, v)]) .unlimited t).toOption

/-- The value that a text writes; a byte order mark is no part of a text. -/
def parse (room : Room) (t : Text) : Except JsonError Json :=
  match t with
  | c :: _ =>
    if c.val = 0xFEFF then .error (.malformed (JsonFault.locate t .byteOrderMark 0))
    else parseText room t
  | [] => parseText room t

end Json

end ShareVault
