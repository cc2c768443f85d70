import ShareVault.Text.Digits

/-! # Instants

    A date and a time of day of the Gregorian calendar, as a clock shows them that is
    ahead of universal time by a known number of seconds or by an unknown one. A clock
    may also show the time of a place that changes its offset over the year.

    Main statement: `Instant.tick_lt`, the time of day of a valid instant is
    within its day.
-/

namespace ShareVault

/-- What is known of universal time where a clock stands. -/
inductive Zone where
  /-- Nothing. -/
  | unknown
  /-- The clock is ahead of it by some seconds, always the same. -/
  | fixed (seconds : Int)
  /-- The clock shows the time of a place, which is ahead of it by some seconds now and
      may be by others at another time. -/
  | place (name : Text) (seconds : Int)
deriving DecidableEq, Repr

namespace Zone

/-- The zone with an offset from universal time, if there is one. -/
def ofOffset : Option Int → Zone
  | some seconds => .fixed seconds
  | none => .unknown

/-- The offset from universal time in seconds, if it is known. -/
def offset : Zone → Option Int
  | .unknown => none
  | .fixed seconds => some seconds
  | .place _ seconds => some seconds

/-- Whether both show the time of one place. -/
def sharePlace : Zone → Zone → Bool
  | .place a _, .place b _ => a == b
  | _, _ => false

end Zone

/-- A date and a time of day, as a clock of the zone shows them. -/
structure Instant where
  year : Nat
  month : Nat
  day : Nat
  hour : Nat
  minute : Nat
  second : Nat
  microsecond : Nat
  zone : Zone
deriving DecidableEq, Repr

/-! ## Dates -/

namespace Calendar

/-- Every fourth year, but of the full centuries only every fourth. -/
def isLeapYear (year : Nat) : Bool :=
  year % 4 == 0 && (year % 100 != 0 || year % 400 == 0)

/-- The number of days of a month, zero for what is no month. -/
def monthDays (year month : Nat) : Nat :=
  if month = 2 then (if isLeapYear year then 29 else 28)
  else if month = 4 || month = 6 || month = 9 || month = 11 then 30
  else if 1 ≤ month && month ≤ 12 then 31
  else 0

/-- The number of days from the first day of year 1 to a date. -/
def dayNumber (year month day : Nat) : Int :=
  let y : Int := (year : Int) - 1
  let before := (List.range (month - 1)).foldl (fun n m => n + monthDays year (m + 1)) 0
  365 * y + y.fdiv 4 - y.fdiv 100 + y.fdiv 400 + (before : Int) + (day : Int) - 1

/-- The number of the first day of 1970. -/
def epoch : Int := 719162

/-- Goes forward from the first day of `month` by `day` days, at most to the
    end of the year. -/
def monthAndDay (year month day : Nat) : Nat → Nat × Nat
  | 0 => (month, day + 1)
  | fuel + 1 =>
    if day < monthDays year month then (month, day + 1)
    else monthAndDay year (month + 1) (day - monthDays year month) fuel

/-- The date with a number: first whole spans of 400, 100, 4 years and of one
    year, then the months. The last century of four and the last year of four
    have a day more, which is why at most three of them are taken off. -/
def dateOfNumber (n : Nat) : Nat × Nat × Nat :=
  -- The 400th year ends with a leap day, so its last day is no fifth century.
  let centuries := min (n % 146097 / 36524) 3
  let inCentury := n % 146097 - centuries * 36524
  -- The same holds for the last day of a fourth year.
  let years := min (inCentury % 1461 / 365) 3
  let year := 400 * (n / 146097) + 100 * centuries + 4 * (inCentury / 1461) + years + 1
  let (month, day) := monthAndDay year 1 (inCentury % 1461 - years * 365) 12
  (year, month, day)

/-- The day of the week of a date, from Monday, which is zero. -/
def weekday (year month day : Nat) : Int := (dayNumber year month day).fmod 7

/-- The number of the Monday of the first week of a year, which is the one with the
    first Thursday. -/
def firstMonday (year : Nat) : Int :=
  let w := weekday year 1 1
  dayNumber year 1 1 - w + (if 3 < w then 7 else 0)

/-- The number of weeks of a year. -/
def weeks (year : Nat) : Nat :=
  let w := weekday year 1 1
  if w = 3 || (w = 2 && isLeapYear year) then 53 else 52

example : dayNumber 1970 1 1 = epoch := by decide

example : dateOfNumber 719162 = (1970, 1, 1) := by decide

example : (firstMonday 2026, weeks 2026) = (dayNumber 2025 12 29, 53) := by decide

end Calendar

namespace Instant

/-! ## Order -/

/-- The microseconds since midnight. -/
def tick (t : Instant) : Nat :=
  ((t.hour * 60 + t.minute) * 60 + t.second) * 1000000 + t.microsecond

theorem tick_lt {t : Instant} (hh : t.hour < 24) (hm : t.minute < 60) (hs : t.second < 60)
    (hu : t.microsecond < 1000000) : t.tick < 86400000000 := by
  simp only [tick]; omega

/-- The offset from universal time in seconds, if it is known. -/
def offset (t : Instant) : Option Int := t.zone.offset

/-- The microseconds from the first instant of year 1, by the clock. -/
def clockTime (t : Instant) : Int :=
  Calendar.dayNumber t.year t.month t.day * 86400000000 + (t.tick : Int)

/-- The microseconds from the first instant of year 1, by universal time when
    the offset is known. -/
def moment (t : Instant) : Int := t.clockTime - t.offset.getD 0 * 1000000

/-- Whether an instant compares as no later than another one. Clocks of one place are
    compared by what they show, also where the place changes its offset in between, and
    all others by universal time. -/
def atMost (a b : Instant) : Bool :=
  if a.zone.sharePlace b.zone then a.clockTime ≤ b.clockTime else a.moment ≤ b.moment

/-! ## Writing -/

/-- The numeral of `n` with at least `width` digits. -/
def padded (width n : Nat) : Text :=
  let digits := Text.decimal n
  List.replicate (width - digits.length) (CodePoint.ofChar '0') ++ digits

/-- Date and time, with six places after the second unless they are zero. -/
def wallClock (t : Instant) : Text :=
  padded 4 t.year ++ "-" ++ padded 2 t.month ++ "-" ++ padded 2 t.day ++ "T"
    ++ padded 2 t.hour ++ ":" ++ padded 2 t.minute ++ ":" ++ padded 2 t.second
    ++ (if t.microsecond = 0 then [] else CodePoint.ofChar '.' :: padded 6 t.microsecond)

/-- An offset as whole hours and minutes with a sign. -/
def offsetText (seconds : Int) : Text :=
  (if seconds < 0 then "-" else "+") ++ padded 2 (seconds.natAbs / 3600) ++ ":"
    ++ padded 2 (seconds.natAbs / 60 % 60)

/-- The instant in a table: `2026-01-01T00:00:00+00:00`. -/
def tabular (t : Instant) : Text :=
  t.wallClock ++ (match t.offset with
    | some s => offsetText s
    | none => [])

/-- The instant in a value: as in a table, with `Z` for universal time. -/
def text (t : Instant) : Text :=
  t.wallClock ++ (match t.offset with
    | some s => if s = 0 then "Z" else offsetText s
    | none => [])

end Instant

end ShareVault
