import ShareVault.Number.Binary64

/-! # Shortest decimals

    The decimal with the fewest digits that reads back as a given double, and of
    those the one nearest to it. The reals that read back as a number form an
    interval around it; for one digit, two digits and so on, the two decimals
    next to the number are tested for lying inside.
-/

namespace ShareVault

/-- The positive decimal `digits · 10 ^ exponent`. -/
structure Decimal where
  digits : Nat
  exponent : Int
deriving DecidableEq, Repr

namespace Decimal

/-- The decimal digits of a number, the most significant first. -/
def digitCount (n : Nat) : Nat := (Nat.toDigits 10 n).length

/-- Drops zeros at the end, of which there are at most `fuel`. -/
def trimZeros : Nat → Decimal → Decimal
  | 0, d => d
  | fuel + 1, d =>
    if d.digits % 10 = 0 && d.digits ≠ 0 then trimZeros fuel ⟨d.digits / 10, d.exponent + 1⟩ else d

end Decimal

namespace Binary64

/-- The reals that read back as a number: those between `low / unit` and
    `high / unit`, the ends included when `closed`. The number itself is
    `value / unit`. -/
structure Interval where
  low : Nat
  value : Nat
  high : Nat
  unit : Nat
  closed : Bool

/-- The interval of `significand · 2 ^ exponent`. Below a power of two the
    neighbours lie half as far apart. -/
def interval (significand : Nat) (exponent : Int) : Interval :=
  let below := if significand = twoTo 52 && minExponent < exponent then 1 else 2
  -- Quarters of a unit in the last place make all three numbers whole.
  let (scale, unit) : Nat × Nat :=
    if 2 ≤ exponent then (twoTo (exponent - 2).toNat, 1) else (1, twoTo (2 - exponent).toNat)
  { low := (4 * significand - below) * scale
    value := 4 * significand * scale
    high := (4 * significand + 2) * scale
    unit := unit
    closed := significand % 2 == 0 }

/-- The decimal `digits · 10 ^ exponent` in units of the interval, as a ratio. -/
def Interval.scaled (i : Interval) (d : Decimal) : Nat × Nat :=
  if 0 ≤ d.exponent then (d.digits * tenTo d.exponent.toNat * i.unit, 1)
  else (d.digits * i.unit, tenTo (-d.exponent).toNat)

/-- The decimal reads back as the number. -/
def Interval.contains (i : Interval) (d : Decimal) : Bool :=
  let (n, k) := i.scaled d
  if i.closed then i.low * k ≤ n && n ≤ i.high * k else i.low * k < n && n < i.high * k

/-- Twice the distance from the number, in units of the interval over `10 ^ p`. -/
def Interval.distance (i : Interval) (d : Decimal) : Nat :=
  let (n, k) := i.scaled d
  if n ≤ i.value * k then i.value * k - n else n - i.value * k

/-- The decimal exponent of the first digit of the number. -/
def Interval.firstDigit (i : Interval) : Int :=
  if i.unit ≤ i.value then (Decimal.digitCount (i.value / i.unit) : Int) - 1
  else
    let q := i.unit / i.value
    let places := Decimal.digitCount q
    if i.unit ≤ i.value * tenTo (places - 1) then -((places : Int) - 1) else -(places : Int)

/-- The decimals next to the number whose last digit stands at `10 ^ exponent`. -/
def Interval.neighbours (i : Interval) (exponent : Int) : Decimal × Decimal :=
  let f :=
    if 0 ≤ exponent then i.value / (i.unit * tenTo exponent.toNat)
    else i.value * tenTo (-exponent).toNat / i.unit
  (⟨f, exponent⟩, ⟨f + 1, exponent⟩)

/-- The better of the two neighbours, if one lies in the interval. -/
def Interval.pick? (i : Interval) (exponent : Int) : Option Decimal :=
  let (a, b) := i.neighbours exponent
  let inA := a.digits ≠ 0 && i.contains a
  let inB := i.contains b
  -- Two hits: the nearer one, and of two equally near ones the even one.
  if inA && inB then
    let da := i.distance a
    let db := i.distance b
    if da < db || (da == db && a.digits % 2 == 0) then some a else some b
  else if inA then some a
  else if inB then some b
  else none

/-- Searches grids of more and more digits, `fuel` of them. -/
def Interval.search (i : Interval) : Nat → Int → Decimal
  | 0, exponent => (i.neighbours exponent).1
  | fuel + 1, exponent =>
    match i.pick? exponent with
    | some d => d
    | none => i.search fuel (exponent - 1)

/-- The shortest decimal that reads back as `significand · 2 ^ exponent`;
    seventeen digits always suffice. -/
def shortest (significand : Nat) (exponent : Int) : Decimal :=
  if significand = 0 then ⟨0, 0⟩
  else
    let i := interval significand exponent
    (i.search 17 i.firstDigit).trimZeros 17

/-- One tenth needs one digit although it is not exact. -/
example : shortest 7205759403792794 (-56) = ⟨1, -1⟩ := by decide +kernel

/-- The least positive number. -/
example : shortest 1 (-1074) = ⟨5, -324⟩ := by decide +kernel

end Binary64

end ShareVault
