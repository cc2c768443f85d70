import ShareVault.Number.Power

/-! # Double-precision numbers

    The values of the binary64 format, as exact data: a finite number is
    `± significand · 2 ^ exponent`. All arithmetic is done on natural numbers,
    so every result can be computed and reasoned about.

    ## Operations
    - `ofRatio`: the number nearest to a ratio, a tie going to the even significand;
    - `ofInt`, `ofDecimal`: integers and decimal numerals as special ratios;
    - `div`: the quotient of two numbers, rounded once.

    Main statement: `roundDiv_le`, rounding a ratio moves it by half a unit at most.
-/

namespace ShareVault

/-- A number of the binary64 format. The significand of a finite number is
    below `2 ^ 53`, and its exponent is the least one, `-1074`, unless the
    significand is at least `2 ^ 52`. -/
inductive Binary64 where
  | nan
  | infinity (negative : Bool)
  | finite (negative : Bool) (significand : Nat) (exponent : Int)
deriving DecidableEq, Repr

namespace Binary64

/-! ## Rounding -/

/-- The integer nearest to `num / den`, the even one of two equally near. -/
def roundDiv (num den : Nat) : Nat :=
  let q := num / den
  let r := num % den
  if den < 2 * r || (2 * r == den && q % 2 == 1) then q + 1 else q

theorem roundDiv_le (num : Nat) {den : Nat} (h : 0 < den) :
    2 * num ≤ 2 * (roundDiv num den * den) + den
      ∧ 2 * (roundDiv num den * den) ≤ 2 * num + den := by
  have hd := Nat.div_add_mod num den
  have hr := Nat.mod_lt num h
  rw [Nat.mul_comm] at hd
  simp only [roundDiv]
  split
  -- Rounded up: the remainder is half of `den` or more.
  · next hc =>
    simp only [Bool.or_eq_true, decide_eq_true_eq, Bool.and_eq_true, beq_iff_eq] at hc
    rw [Nat.add_mul, Nat.one_mul]
    omega
  -- Rounded down: it is half of `den` or less.
  · next hc =>
    simp only [Bool.or_eq_true, decide_eq_true_eq, not_or] at hc
    omega

/-- The least exponent of a finite number. -/
def minExponent : Int := -1074

/-- The greatest exponent of a finite number. -/
def maxExponent : Int := 971

/-- The ratio `num / den` in units of `2 ^ e`, as a ratio. -/
def inUnits (num den : Nat) (e : Int) : Nat × Nat :=
  if 0 ≤ e then (num, den * twoTo e.toNat) else (num * twoTo (-e).toNat, den)

/-- Zero with a sign. -/
def zero (negative : Bool) : Binary64 := .finite negative 0 minExponent

/-- The number nearest to `num / den`, an infinity when that is too large. -/
def ofRatio (negative : Bool) (num den : Nat) : Binary64 :=
  if num = 0 then zero negative
  else
    let magnitude : Int := (num.log2 : Int) - (den.log2 : Int)
    let low := max (magnitude - 53) minExponent
    -- In units of `2 ^ low` the ratio has 53 or 54 bits, unless it is very small.
    let (n, d) := inUnits num den low
    let e := if n / d < twoTo 53 then low else low + 1
    let (n, d) := inUnits num den e
    let m := roundDiv n d
    -- Rounding up can carry into one bit more.
    let (m, e) := if m = twoTo 53 then (twoTo 52, e + 1) else (m, e)
    if maxExponent < e then .infinity negative else .finite negative m e

/-! ## Integers and decimal numerals -/

/-- A multiple of a number, rounded once. -/
def times (x : Binary64) (k : Nat) : Binary64 :=
  match x with
  | .finite negative m e => ofRatio negative (m * twoTo e.toNat * k) (twoTo (-e).toNat)
  | x => x

/-- The number nearest to an integer. -/
def ofInt (n : Int) : Binary64 := ofRatio (n < 0) n.natAbs 1

/-- The number nearest to `± digits · 10 ^ exponent`. Exponents that take the
    value far out of range are answered without computing the power. -/
def ofDecimal (negative : Bool) (digits : Nat) (exponent : Int) : Binary64 :=
  if digits = 0 then zero negative
  else if 400 < exponent then .infinity negative
  else if (digits.log2 : Int) + 1101 < 3 * -exponent then zero negative
  else if 0 ≤ exponent then ofRatio negative (digits * tenTo exponent.toNat) 1
  else ofRatio negative digits (tenTo (-exponent).toNat)

/-! ## Arithmetic and comparison -/

/-- Below zero or the negative zero. -/
def isNegative : Binary64 → Bool
  | .nan => false
  | .infinity s => s
  | .finite s _ _ => s

/-- Neither infinite nor NaN. -/
def isFinite : Binary64 → Bool
  | .finite .. => true
  | _ => false

/-- Equal to zero. -/
def isZero : Binary64 → Bool
  | .finite _ m _ => m == 0
  | _ => false

/-- Above zero. -/
def isPositive : Binary64 → Bool
  | .nan => false
  | .infinity s => !s
  | .finite s m _ => !s && m != 0

/-- The quotient of the magnitudes `m · 2 ^ e` and `k · 2 ^ f`, rounded once. -/
def divMagnitudes (negative : Bool) (m : Nat) (e : Int) (k : Nat) (f : Int) : Binary64 :=
  if f ≤ e then ofRatio negative (m * twoTo (e - f).toNat) k
  else ofRatio negative m (k * twoTo (f - e).toNat)

/-- The quotient of two numbers. -/
def div : Binary64 → Binary64 → Binary64
  | .nan, _ => .nan
  | _, .nan => .nan
  | .infinity _, .infinity _ => .nan
  | .infinity s, y => .infinity (s != y.isNegative)
  | x, .infinity t => zero (x.isNegative != t)
  | .finite s m e, .finite t k f =>
    if k = 0 then (if m = 0 then .nan else .infinity (s != t))
    else divMagnitudes (s != t) m e k f

/-- The integer that a number is, if it is one. -/
def toInt? : Binary64 → Option Int
  | .finite s m e =>
    let sign (n : Nat) : Int := if s then -(n : Int) else n
    if 0 ≤ e then some (sign (m * twoTo e.toNat))
    else if m % twoTo (-e).toNat = 0 then some (sign (m / twoTo (-e).toNat))
    else none
  | _ => none

/-- One third is a little less than a third. -/
example : ofRatio false 1 3 = .finite false 6004799503160661 (-54) := by decide

/-- Halfway between two neighbours the even one is taken. -/
example : ofInt (twoTo 53 + 1) = .finite false (twoTo 52) 1 := by decide

end Binary64

end ShareVault
