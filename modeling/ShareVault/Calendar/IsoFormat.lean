import ShareVault.Calendar.Parser

/-! # Dates and times of ISO 8601

    A date is written by year, month and day, or by year, week and day of the week,
    with hyphens or without. A time of day follows after any one code point: hours,
    minutes and seconds, with colons or without, of which the later ones may be
    missing, and a fraction of the last one's second. After it there may be an
    offset from universal time, `Z` or a time with a sign.

    ## Operations
    - `IsoFormat.dateLength`, `IsoFormat.date?`: the date;
    - `IsoFormat.clock?`: a time of day, or an offset;
    - `Instant.ofIso?`: whole texts.

    Main statement: `IsoFormat.date?_eq_some_valid`, a date that is read is one of
    the calendar.
-/

namespace ShareVault

namespace IsoFormat

/-! ## Dates -/

/-- The number of code points of the date at the start of a text. -/
def dateLength (t : Text) : Nat :=
  let hyphen := CodePoint.ofChar '-'
  let week := CodePoint.ofChar 'W'
  if t.length = 7 then 7
  else if t[4]? = some hyphen then
    if t[5]? = some week then
      -- After the week a hyphen may belong to the day or stand before the time.
      if t[8]? = some hyphen && !(t[10]?.any CodePoint.isDigit) then 10 else 8
    else 10
  else if t[4]? = some week then
    -- The hours and what follows have an even number of digits.
    let digits := ((t.drop 7).takeWhile CodePoint.isDigit).length
    if digits < 2 then 7 + digits else if digits % 2 = 0 then 8 else 7
  else 8

/-- A date of the calendar. -/
def IsValid (date : Nat × Nat × Nat) : Prop :=
  1 ≤ date.1 ∧ date.1 ≤ 9999 ∧ 1 ≤ date.2.2 ∧ date.2.2 ≤ Calendar.monthDays date.1 date.2.1

instance (date : Nat × Nat × Nat) : Decidable (IsValid date) :=
  inferInstanceAs (Decidable (_ ∧ _ ∧ _ ∧ _))

/-- The date of a day in a week of a year. -/
def dateOfWeek? (year week day : Nat) : Option (Nat × Nat × Nat) :=
  if 1 ≤ year && 1 ≤ week && week ≤ Calendar.weeks year && 1 ≤ day && day ≤ 7 then
    some (Calendar.dateOfNumber
      (Calendar.firstMonday year + (7 * (week - 1) + (day - 1) : Nat)).toNat)
  else none

/-- The number of so many digits at the start of a text, and the rest. -/
def number? (width : Nat) (t : Text) : Option (Nat × Text) :=
  if width ≤ t.length then (Instant.digits? (t.take width)).map fun n => (n, t.drop width)
  else none

/-- The text after a hyphen if there has to be one, else the text. -/
def afterHyphen? (hyphens : Bool) (t : Text) : Option Text :=
  match hyphens, t with
  | false, t => some t
  | true, c :: rest => if c = CodePoint.ofChar '-' then some rest else none
  | true, [] => none

/-- The date that a text writes, with hyphens or without. -/
def writtenDate? (t : Text) : Option (Nat × Nat × Nat) := do
  let (year, rest) ← number? 4 t
  let hyphens := rest.head? == some (CodePoint.ofChar '-')
  let rest ← afterHyphen? hyphens rest
  if rest.head? == some (CodePoint.ofChar 'W') then
    let (week, rest) ← number? 2 (rest.drop 1)
    if rest.isEmpty then dateOfWeek? year week 1
    else
      let (day, rest) ← number? 1 (← afterHyphen? hyphens rest)
      if rest.isEmpty then dateOfWeek? year week day else none
  else
    let (month, rest) ← number? 2 rest
    let (day, rest) ← number? 2 (← afterHyphen? hyphens rest)
    if rest.isEmpty then some (year, month, day) else none

/-- The date that a text writes, if it is one of the calendar. -/
def date? (t : Text) : Option (Nat × Nat × Nat) :=
  (writtenDate? t).bind fun d => if IsValid d then some d else none

theorem date?_eq_some_valid {t : Text} {d : Nat × Nat × Nat} (h : date? t = some d) :
    IsValid d := by
  simp only [date?, Option.bind_eq_some_iff] at h
  obtain ⟨e, -, h⟩ := h
  split at h
  · next hv => exact Option.some.inj h ▸ hv
  · simp at h

/-! ## Times -/

/-- Hours, minutes and seconds, and microseconds. -/
structure Clock where
  hour : Nat
  minute : Nat
  second : Nat
  micro : Nat

/-- The clock of numbers, of which the later ones may be missing. -/
def Clock.ofParts (parts : List Nat) (micro : Nat) : Clock :=
  ⟨parts.getD 0 0, parts.getD 1 0, parts.getD 2 0, micro⟩

/-- A fraction: up to six digits count. What is after the digits is left. -/
def fraction? (t : Text) : Option (Nat × Text) :=
  (Instant.digits? (t.take 6)).map fun _ =>
    (Instant.fraction t, (t.drop 6).dropWhile CodePoint.isDigit)

/-- A clock at the start of a text, and what is left, with numbers read before.
    With `colons`, colons stand between the numbers; `more` further numbers may
    follow the next one. A fraction comes after a point, a comma, or the last one's
    colon or nothing. -/
def clockFrom? (parts : List Nat) (colons : Option Bool) : (more : Nat) → Text →
    Option (Clock × Text)
  | more, a :: b :: rest => do
    let n ← Instant.digits? [a, b]
    let parts := parts ++ [n]
    match rest with
    | [] => some (.ofParts parts 0, [])
    | [c] => some (.ofParts parts 0, [c])
    | c :: rest =>
      let isColon := c = CodePoint.ofChar ':'
      let colons := colons.getD isColon
      let fractional (t : Text) := (fraction? t).map fun p => (Clock.ofParts parts p.1, p.2)
      if colons && isColon then
        match more with
        | 0 => fractional rest
        | k + 1 => clockFrom? parts (some colons) k rest
      else if c = CodePoint.ofChar '.' || c = CodePoint.ofChar ',' then fractional rest
      else if colons then none
      else
        match more with
        | 0 => fractional (c :: rest)
        | k + 1 => clockFrom? parts (some colons) k (c :: rest)
  | _, _ => none

/-- A clock at the start of a text, and what is left. -/
def clock? (t : Text) : Option (Clock × Text) := clockFrom? [] none 2 t

/-- The offset in seconds that a clock stands for, the nearest one, if it is less
    than a day. -/
def Clock.offset? (negative : Bool) (k : Clock) : Option Int :=
  let micros := ((k.hour * 60 + k.minute) * 60 + k.second) * 1000000 + k.micro
  let seconds : Int := ((micros + 500000) / 1000000 : Nat)
  if micros < 86400000000 then some (if negative then -seconds else seconds) else none

/-- A time of day with or without an offset. Before an offset, what is left of the
    time does not matter. -/
def time? (t : Text) : Option (Clock × Option Int) := do
  let plus := CodePoint.ofChar '+'
  let minus := CodePoint.ofChar '-'
  let zulu := CodePoint.ofChar 'Z'
  let startsOffset (c : CodePoint) : Bool := c = plus || c = minus || c = zulu
  let (clock, left) ← clock? (t.takeWhile (!startsOffset ·))
  match t.dropWhile (!startsOffset ·) with
  | [] => if left.isEmpty then some (clock, none) else none
  | c :: rest =>
    if c = zulu then (if rest.isEmpty then some (clock, some 0) else none)
    else
      let (k, left) ← clock? rest
      if left.isEmpty then
        let offset ← k.offset? (c = minus)
        some (clock, some offset)
      else none

end IsoFormat

namespace Instant

/-- The instant that a text in a format of ISO 8601 writes. -/
def ofIso? (t : Text) : Option Instant := do
  let n := IsoFormat.dateLength t
  let date ← IsoFormat.date? (t.take n)
  match t.drop n with
  | [] => some (midnight date)
  | _ :: rest =>
    let (clock, offset) ← IsoFormat.time? (byteText rest)
    if clock.hour < 24 && clock.minute < 60 && clock.second < 60
        && Text.isWellFormed rest then
      some { midnight date with
        hour := clock.hour, minute := clock.minute, second := clock.second
        microsecond := clock.micro, zone := .ofOffset offset }
    else none

example : (ofIso? "2026-W01-4T1030,5+01").map text
    = some ("2026-01-01T10:30:00.500000+01:00" : Text) := by
  decide +kernel

end Instant

end ShareVault
