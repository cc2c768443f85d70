import ShareVault.Calendar.Instant
import ShareVault.Number.Numeral
import ShareVault.Text.Encoding

/-! # Reading instants

    An instant is read from a text in the Internet format, `2026-01-01T10:20:30Z`,
    where the second, its fraction and the offset may be missing; from a date
    alone, which means midnight; and from a number of seconds since 1970, or of
    milliseconds when the number is large.

    ## Layers
    - `Instant.dateOfText`, `Instant.ofInternet?`: the two written forms;
    - `Instant.ofInteger`, `Instant.ofNumber`: numbers;
    - `Instant.ofText`: whichever form a text has; its fault is that of the date,
      the more lenient of the two written forms.

    Main statement: `Instant.ofEpoch_eq_ok_iff`, a time since 1970 is an instant
    exactly if it lies in the years from 1 to 9999.
-/

namespace ShareVault

/-- Why a text or a number is no date. -/
inductive DateProblem where
  | tooShort
  | extraCharacters
  | yearCharacter
  | monthCharacter
  | dayCharacter
  | separator
  | monthRange
  | dayRange
  | tooEarly
  | tooLate
  /-- The year 0 can be written, but there is no such year. -/
  | yearZero
  | notMidnight
  | notANumber
deriving DecidableEq, Repr

/-- The wording of a problem. -/
def DateProblem.message : DateProblem → Text
  | .tooShort => "input is too short"
  | .extraCharacters => "unexpected extra characters at the end of the input"
  | .yearCharacter => "invalid character in year"
  | .monthCharacter => "invalid character in month"
  | .dayCharacter => "invalid character in day"
  | .separator => "invalid date separator, expected \x60-\x60"
  | .monthRange => "month value is outside expected range of 1-12"
  | .dayRange => "day value is outside expected range"
  | .tooEarly => "dates before 0000 are not supported as unix timestamps"
  | .tooLate => "dates after 9999 are not supported as unix timestamps"
  | .yearZero => "year 0 is out of range"
  | .notMidnight => "datetimes provided to dates should have zero time - e.g. be exact dates"
  | .notANumber => "NaN values not permitted"

namespace Instant

/-! ## Dates -/

/-- The number of decimal digits, unless one of them is none. -/
def digits? (ds : Text) : Option Nat :=
  if ds.all CodePoint.isDigit then some (Text.digitsValue ds) else none

/-- A date at the start of a text, as year, month and day, and the rest. -/
def dateAndRest (t : Text) : Except DateProblem ((Nat × Nat × Nat) × Text) :=
  match t with
  | y1 :: y2 :: y3 :: y4 :: s1 :: m1 :: m2 :: s2 :: d1 :: d2 :: rest =>
    match digits? [y1, y2, y3, y4] with
    | none => .error .yearCharacter
    | some year =>
      if s1 ≠ CodePoint.ofChar '-' then .error .separator
      else match digits? [m1, m2] with
        | none => .error .monthCharacter
        | some month =>
          if s2 ≠ CodePoint.ofChar '-' then .error .separator
          else match digits? [d1, d2] with
            | none => .error .dayCharacter
            | some day =>
              if Calendar.monthDays year month = 0 then .error .monthRange
              else if day < 1 || Calendar.monthDays year month < day then .error .dayRange
              else .ok ((year, month, day), rest)
  | _ => .error .tooShort

/-- Midnight of a day. -/
def midnight (date : Nat × Nat × Nat) : Instant :=
  { year := date.1, month := date.2.1, day := date.2.2
    hour := 0, minute := 0, second := 0, microsecond := 0, zone := .unknown }

/-- A date and nothing else. -/
def dateOfText (t : Text) : Except DateProblem Instant :=
  match dateAndRest t with
  | .error e => .error e
  | .ok (date, []) => .ok (midnight date)
  | .ok (_, _ :: _) => .error .extraCharacters

/-! ## Times of day -/

/-- A two-digit number below a bound, and the rest. -/
def twoDigits? (bound : Nat) : Text → Option (Nat × Text)
  | a :: b :: rest => do
    let n ← digits? [a, b]
    if n < bound then some (n, rest) else none
  | _ => none

/-- The microseconds of the digits after a point; places beyond the sixth do
    not count. -/
def fraction (ds : Text) : Nat :=
  Text.digitsValue (ds.take 6) * tenTo (6 - (ds.take 6).length)

/-- Seconds after a colon, with a fraction after a point or a comma; nothing
    means zero. -/
def secondsAndRest? (t : Text) : Option ((Nat × Nat) × Text) :=
  match t with
  | c :: rest =>
    if c = CodePoint.ofChar ':' then do
      let (second, rest) ← twoDigits? 60 rest
      match rest with
      | p :: more =>
        if p = CodePoint.ofChar '.' || p = CodePoint.ofChar ',' then
          let ds := more.takeWhile CodePoint.isDigit
          if ds.isEmpty then none
          else some ((second, fraction ds), more.dropWhile CodePoint.isDigit)
        else some ((second, 0), rest)
      | [] => some ((second, 0), rest)
    else some ((0, 0), t)
  | [] => some ((0, 0), t)

/-- The minus sign that is no hyphen, in bytes. -/
def minusSign : Text := (Encoding.encodeUtf8 "−").map fun b => CodePoint.ofNat b.toNat

/-- The sign at the start of an offset, and the rest. A hyphen and a minus sign
    make it negative. -/
def offsetSign? (t : Text) : Option (Bool × Text) :=
  if (Text.ofString "+").isPrefixOf t then some (false, t.drop 1)
  else if (Text.ofString "-").isPrefixOf t then some (true, t.drop 1)
  else if minusSign.isPrefixOf t then some (true, t.drop minusSign.length)
  else none

/-- The offset at the end of a text, in seconds: `Z`, or hours and minutes with
    a sign and perhaps a colon, less than a day. Nothing means none. -/
def offset? (t : Text) : Option (Option Int) :=
  match t with
  | [] => some none
  | c :: rest =>
    if rest.isEmpty && (c = CodePoint.ofChar 'Z' || c = CodePoint.ofChar 'z') then some (some 0)
    else do
      let (negative, rest) ← offsetSign? t
      let (hours, rest) ← twoDigits? 24 rest
      let rest := match rest with
        | s :: more => if s = CodePoint.ofChar ':' then more else rest
        | [] => rest
      let (minutes, rest) ← twoDigits? 60 rest
      let n : Int := 60 * (hours * 60 + minutes)
      if rest.isEmpty then some (some (if negative then -n else n)) else none

/-- The marks that may stand between the date and the time of day. -/
def timeMarks : List CodePoint := ['T', 't', ' ', '_'].map CodePoint.ofChar

/-- The Internet format. -/
def ofInternet? (t : Text) : Option Instant :=
  match dateAndRest t with
  | .error _ => none
  | .ok ((year, month, day), s :: rest) => do
    if timeMarks.contains s then
      let (hour, rest) ← twoDigits? 24 rest
      match rest with
      | c :: rest =>
        if c = CodePoint.ofChar ':' then
          let (minute, rest) ← twoDigits? 60 rest
          let ((second, microsecond), rest) ← secondsAndRest? rest
          let offset ← offset? rest
          some { year, month, day, hour, minute, second, microsecond
                 zone := .ofOffset offset }
        else none
      | [] => none
    else none
  | .ok (_, []) => none

/-! ## Numbers -/

/-- The greatest number that counts seconds; greater ones count milliseconds. -/
def secondsLimit : Int := 20000000000

/-- The start of year 0, in seconds from the start of 1970. -/
def yearZeroStart : Int := -62167219200

/-- The start of year 1, in seconds from the start of 1970. -/
def yearOneStart : Int := -62135596800

/-- The last second of year 9999, in seconds from the start of 1970. -/
def lastSecond : Int := 253402300799

/-- The instant some seconds and microseconds after the start of 1970, by
    universal time. A full second of microseconds carries over. -/
def ofEpoch (seconds : Int) (micro : Nat) : Except DateProblem Instant :=
  let seconds := seconds + (micro / 1000000 : Nat)
  if seconds < yearZeroStart then .error .tooEarly
  else if lastSecond < seconds then .error .tooLate
  else if seconds < yearOneStart then .error .yearZero
  else
    let (year, month, day) :=
      Calendar.dateOfNumber (Calendar.epoch + seconds.fdiv 86400).toNat
    let inDay := (seconds.fmod 86400).toNat
    .ok { year, month, day
          hour := inDay / 3600, minute := inDay / 60 % 60, second := inDay % 60
          microsecond := micro % 1000000
          zone := .fixed 0 }

theorem ofEpoch_eq_ok_iff {seconds : Int} {micro : Nat} (h : micro < 1000000) :
    (∃ i, ofEpoch seconds micro = .ok i) ↔ yearOneStart ≤ seconds ∧ seconds ≤ lastSecond := by
  have hm : ((micro / 1000000 : Nat) : Int) = 0 := by omega
  simp only [ofEpoch, hm, Int.add_zero, yearZeroStart, yearOneStart, lastSecond]
  split
  · simp; omega
  · split
    · simp; omega
    · split
      · simp; omega
      · simp; omega

/-- The instant that a whole number of seconds or milliseconds stands for. -/
def ofInteger (n : Int) : Except DateProblem Instant :=
  if n.natAbs ≤ secondsLimit.natAbs then ofEpoch n 0
  else ofEpoch (n.fdiv 1000) ((n.fmod 1000).toNat * 1000)

/-- The integer nearest to a number that is not negative, the greater one of two
    equally near. -/
def nearest : Binary64 → Nat
  | .finite _ m e => (2 * m * twoTo e.toNat / twoTo (-e).toNat + 1) / 2
  | _ => 0

/-- The instant that a double stands for as a number of seconds or milliseconds.
    What is left beside whole seconds is a double, and so are the microseconds
    before they are rounded. -/
def ofNumber (x : Binary64) : Except DateProblem Instant :=
  match x with
  | .nan => .error .notANumber
  | .infinity negative => .error (if negative then .tooEarly else .tooLate)
  | .finite negative m e =>
    let num : Nat := m * twoTo e.toNat
    let den : Nat := twoTo (-e).toNat
    let signed : Int := if negative then -(num : Int) else num
    -- Beyond the limit a thousand make a second.
    let perSecond : Nat := if num ≤ secondsLimit.natAbs * den then 1 else 1000
    let second : Nat := perSecond * den
    let left := Binary64.ofRatio false (signed.fmod second).toNat den
    ofEpoch (signed.fdiv second) (nearest (left.times (1000000 / perSecond)))

/-- The number that a text writes as a count of seconds or milliseconds. -/
inductive Count where
  | integer (n : Int)
  | number (x : Binary64)

/-- A count is a sign and digits, or any numeral that has digits, at most as many
    as a word of 64 bits has, and a point after its sign. -/
def count? (t : Text) : Option Count :=
  let (negative, rest) := t.signAndRest
  let digits := rest.takeWhile CodePoint.isDigit
  let magnitude : Int := Text.digitsValue digits
  let n := if negative then -magnitude else magnitude
  if !isSignedWord n then none
  else match rest.dropWhile CodePoint.isDigit with
    | [] => if digits.isEmpty then none else some (.integer n)
    | c :: _ =>
      if c = CodePoint.ofChar '.' then .number <$> Binary64.ofNumeral? t else none

/-! ## Texts -/

/-- The bytes of a text, each as a code point: places in a text are counted in
    bytes here. -/
def byteText (t : Text) : Text :=
  (Encoding.encodeUtf8 t).map fun b => CodePoint.ofNat b.toNat

/-- A written instant, unless it lies in year 0. -/
def afterYearZero (i : Instant) : Except DateProblem Instant :=
  if i.year = 0 then .error .yearZero else .ok i

/-- The instant that a count means, in a text that is no date for the reason `e`.
    A whole number out of range has a fault of its own, another number that of
    the date. -/
def ofCount (e : DateProblem) : Count → Except DateProblem Instant
  | .integer n => ofInteger n
  | .number x =>
    match ofNumber x with
    | .ok i => .ok i
    | .error .yearZero => .error .yearZero
    | .error _ => .error e

/-- The instant that a text writes. -/
def ofText (t : Text) : Except DateProblem Instant :=
  let t := byteText t
  match ofInternet? t with
  | some i => afterYearZero i
  | none =>
    match dateOfText t with
    | .ok i => afterYearZero i
    -- No date either: the text may be a number.
    | .error e => ((count? t).map (ofCount e)).getD (.error e)

end Instant

end ShareVault
