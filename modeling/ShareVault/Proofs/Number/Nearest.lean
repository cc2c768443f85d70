import Mathlib.Algebra.Order.Field.Power
import Mathlib.Data.Rat.Cast.Order
import Mathlib.Tactic.FieldSimp
import Mathlib.Tactic.Linarith
import Mathlib.Tactic.NormNum
import Mathlib.Tactic.Positivity
import Mathlib.Tactic.Ring
import ShareVault.Number.Binary64

/-! # The error of a rounded ratio

    A ratio is rounded to a significand of 53 bits, so the number that stands for
    it differs from it by a part `2 ^ -53` of it at most. A quotient of two
    rounded integers is rounded three times, and is still within `2 ^ -51`.

    ## Structure
    - `inUnits`, `log2`: the ratio in units of a power of two, and how large it is;
    - `ofRatio`: the unit that is chosen leaves 53 bits, then half a unit is lost;
    - `div`: the errors of the two operands and of the quotient add up.

    Main statements: `within_ofRatio`, `within_ofInt`, `within_div`.
-/

namespace ShareVault

namespace Binary64

/-- A finite number without a sign that differs from `q` by a part `ε` of `q` at most. -/
def Within (ε : ℚ) (x : Binary64) (q : ℚ) : Prop :=
  ∃ (m : Nat) (e : Int), x = .finite false m e ∧ |(m : ℚ) * 2 ^ e - q| ≤ ε * q

/-- The part of a ratio that one rounding can lose. -/
def halfUnit : ℚ := 1 / 2 ^ 53

theorem Within.isFinite {ε q : ℚ} {x : Binary64} (h : Within ε x q) : x.isFinite = true := by
  obtain ⟨m, e, rfl, -⟩ := h
  rfl

theorem Within.ne_nan {ε q : ℚ} {x : Binary64} (h : Within ε x q) : x ≠ .nan := by
  obtain ⟨m, e, rfl, -⟩ := h
  simp

theorem halfUnit_nonneg : 0 ≤ halfUnit := by norm_num [halfUnit]

theorem halfUnit_le : halfUnit ≤ 1 / 5 := by norm_num [halfUnit]

/-- Zero stands for zero, whatever error is allowed. -/
theorem within_zero (ε : ℚ) : Within ε (zero false) 0 :=
  ⟨0, minExponent, rfl, by simp⟩

/-! ### Units -/

theorem cast_twoTo (n : Nat) : ((twoTo n : Nat) : ℚ) = 2 ^ n := by
  have h : twoTo n = 2 ^ n := rfl
  rw [h]
  push_cast
  rfl

theorem cast_twoTo_toNat {e : Int} (h : 0 ≤ e) : ((twoTo e.toNat : Nat) : ℚ) = 2 ^ e := by
  rw [cast_twoTo, ← zpow_natCast, Int.toNat_of_nonneg h]

theorem two_zpow_eq {k : Nat} {e f : Int} (h : f = e + k) : (2 : ℚ) ^ f = 2 ^ k * 2 ^ e := by
  rw [h, zpow_add₀ (by norm_num), zpow_natCast, mul_comm]

/-- The nearest integer is half a unit away at most. -/
theorem abs_roundDiv_sub_le (num : Nat) {den : Nat} (h : 0 < den) :
    |(roundDiv num den : ℚ) - num / den| ≤ 1 / 2 := by
  obtain ⟨hlow, hhigh⟩ := roundDiv_le num h
  have hden : (0 : ℚ) < den := by exact_mod_cast h
  have hlow' : (2 : ℚ) * num ≤ 2 * (roundDiv num den * den) + den := by exact_mod_cast hlow
  have hhigh' : (2 : ℚ) * (roundDiv num den * den) ≤ 2 * num + den := by exact_mod_cast hhigh
  have hnum : (num : ℚ) = num / den * den := by field_simp
  rw [abs_le]
  constructor
  · nlinarith
  · nlinarith

theorem inUnits_pos (num : Nat) {den : Nat} (h : 0 < den) (e : Int) :
    0 < (inUnits num den e).2 := by
  simp only [inUnits]
  split
  · exact Nat.mul_pos h (twoTo_pos _)
  · exact h

/-- Taking a unit for one divides the ratio by it. -/
theorem inUnits_ratio (num den : Nat) (e : Int) :
    ((inUnits num den e).1 : ℚ) / (inUnits num den e).2 = num / den / 2 ^ e := by
  simp only [inUnits]
  by_cases he : 0 ≤ e
  · simp only [if_pos he, Nat.cast_mul, cast_twoTo_toNat he]
    rw [div_div]
  · have hneg : 0 ≤ -e := by omega
    simp only [if_neg he, Nat.cast_mul, cast_twoTo_toNat hneg, zpow_neg]
    have hpos : (0 : ℚ) < 2 ^ e := by positivity
    field_simp

/-- How many bits a ratio has before the point, in a unit. -/
theorem inUnits_div_lt_iff (num : Nat) {den : Nat} (h : 0 < den) (e : Int) (bits : Nat) :
    (inUnits num den e).1 / (inUnits num den e).2 < twoTo bits
      ↔ (num : ℚ) / den < 2 ^ bits * 2 ^ e := by
  have hunit : (0 : ℚ) < 2 ^ e := by positivity
  have hpos := inUnits_pos num h e
  have hposQ : (0 : ℚ) < (inUnits num den e).2 := by exact_mod_cast hpos
  rw [Nat.div_lt_iff_lt_mul hpos, ← div_lt_iff₀ hunit, ← inUnits_ratio, div_lt_iff₀ hposQ,
    ← cast_twoTo]
  exact_mod_cast Iff.rfl

/-! ### The size of a ratio -/

theorem two_zpow_log2_le {n : Nat} (h : 0 < n) : (2 : ℚ) ^ (n.log2 : Int) ≤ n := by
  rw [zpow_natCast]
  exact_mod_cast Nat.log2_self_le (by omega)

theorem lt_two_zpow_log2 (n : Nat) : (n : ℚ) < 2 ^ ((n.log2 : Int) + 1) := by
  have h := Nat.lt_log2_self (n := n)
  have hcast : (n : ℚ) < 2 ^ (n.log2 + 1) := by exact_mod_cast h
  rw [← zpow_natCast] at hcast
  exact_mod_cast hcast

/-- The difference of the logarithms is that of the ratio, or one more. -/
theorem ratio_bounds {num den : Nat} (hn : 0 < num) (hd : 0 < den) :
    (2 : ℚ) ^ ((num.log2 : Int) - den.log2 - 1) < num / den
      ∧ (num : ℚ) / den < 2 ^ ((num.log2 : Int) - den.log2 + 1) := by
  have hden : (0 : ℚ) < den := by exact_mod_cast hd
  constructor
  · rw [lt_div_iff₀ hden]
    calc (2 : ℚ) ^ ((num.log2 : Int) - den.log2 - 1) * den
        < 2 ^ ((num.log2 : Int) - den.log2 - 1) * 2 ^ ((den.log2 : Int) + 1) :=
          mul_lt_mul_of_pos_left (lt_two_zpow_log2 den) (by positivity)
      _ = 2 ^ (num.log2 : Int) := by
          rw [← zpow_add₀ (by norm_num)]
          congr 1
          ring
      _ ≤ num := two_zpow_log2_le hn
  · rw [div_lt_iff₀ hden]
    calc (num : ℚ) < 2 ^ ((num.log2 : Int) + 1) := lt_two_zpow_log2 num
      _ = 2 ^ ((num.log2 : Int) - den.log2 + 1) * 2 ^ (den.log2 : Int) := by
          rw [← zpow_add₀ (by norm_num)]
          congr 1
          ring
      _ ≤ 2 ^ ((num.log2 : Int) - den.log2 + 1) * den :=
          mul_le_mul_of_nonneg_left (two_zpow_log2_le hd) (by positivity)

/-- The unit that a ratio is rounded in, `magnitude` being the difference of the
    logarithms: the smaller of two that can be right, if 53 bits are enough in it. -/
def unitOf (num den : Nat) (magnitude : Int) : Int :=
  if (inUnits num den (magnitude - 53)).1 / (inUnits num den (magnitude - 53)).2 < twoTo 53 then
    magnitude - 53
  else magnitude - 52

/-- In its unit a ratio has 53 bits before the point. -/
theorem unitOf_bounds {num den : Nat} (hn : 0 < num) (hd : 0 < den) :
    (2 : ℚ) ^ 52 * 2 ^ unitOf num den (num.log2 - den.log2) ≤ num / den
      ∧ (num : ℚ) / den < 2 ^ 53 * 2 ^ unitOf num den (num.log2 - den.log2) := by
  obtain ⟨hlow, hhigh⟩ := ratio_bounds hn hd
  generalize (num.log2 : Int) - den.log2 = magnitude at hlow hhigh
  simp only [unitOf, inUnits_div_lt_iff num hd]
  split
  -- The smaller unit is right: the ratio has fewer than 54 bits in it.
  · next hlt =>
    rw [two_zpow_eq (k := 52) (e := magnitude - 53) (by omega)] at hlow
    exact ⟨hlow.le, hlt⟩
  -- The ratio has 54 bits in it, which are 53 bits in twice the unit.
  · next hge =>
    rw [not_lt, ← two_zpow_eq (f := magnitude) (by omega)] at hge
    rw [two_zpow_eq (k := 53) (e := magnitude - 52) (by omega)] at hhigh
    refine ⟨?_, hhigh⟩
    rw [← two_zpow_eq (f := magnitude) (by omega)]
    exact hge

/-! ### Rounding a ratio -/

/-- The number with a significand of at most `2 ^ 53`, which one carry makes a
    significand of 53 bits. -/
def carried (negative : Bool) (m : Nat) (e : Int) : Binary64 :=
  let (m, e) := if m = twoTo 53 then (twoTo 52, e + 1) else (m, e)
  if maxExponent < e then .infinity negative else .finite negative m e

/-- A carry keeps the value. -/
theorem carried_eq {m : Nat} {e : Int} (he : e < maxExponent) (negative : Bool) :
    ∃ (m' : Nat) (e' : Int), carried negative m e = .finite negative m' e'
      ∧ (m' : ℚ) * 2 ^ e' = m * 2 ^ e := by
  by_cases hm : m = twoTo 53
  · refine ⟨twoTo 52, e + 1, ?_, ?_⟩
    · simp only [carried, if_pos hm]
      rw [if_neg (by omega)]
    · rw [hm, cast_twoTo, cast_twoTo, zpow_add_one₀ (by norm_num)]
      ring
  · refine ⟨m, e, ?_, rfl⟩
    simp only [carried, if_neg hm]
    rw [if_neg (by omega)]

/-- A ratio that is not too small is rounded in its own unit. -/
theorem ofRatio_eq_carried {num den : Nat} (hn : 0 < num)
    (hm : minExponent + 53 ≤ (num.log2 : Int) - den.log2) (negative : Bool) :
    ofRatio negative num den
      = carried negative
          (roundDiv (inUnits num den (unitOf num den (num.log2 - den.log2))).1
            (inUnits num den (unitOf num den (num.log2 - den.log2))).2)
          (unitOf num den (num.log2 - den.log2)) := by
  have hlow : max ((num.log2 : Int) - den.log2 - 53) minExponent
      = (num.log2 : Int) - den.log2 - 53 := max_eq_left (by omega)
  have hnext : (num.log2 : Int) - den.log2 - 53 + 1 = (num.log2 : Int) - den.log2 - 52 := by ring
  simp only [ofRatio, if_neg (show ¬num = 0 by omega), hlow, hnext]
  rfl

/-- What is rounded once keeps all but a part `2 ^ -53` of itself. -/
theorem within_ofRatio {num den : Nat} (hn : 0 < num) (hd : 0 < den)
    (hlow : (2 : ℚ) ^ (-250 : Int) ≤ num / den) (hhigh : (num : ℚ) / den ≤ 2 ^ (250 : Int)) :
    Within halfUnit (ofRatio false num den) (num / den) := by
  obtain ⟨hbelow, habove⟩ := ratio_bounds hn hd
  have hleast : (-250 : Int) < (num.log2 : Int) - den.log2 + 1 :=
    (zpow_lt_zpow_iff_right₀ (by norm_num)).mp (lt_of_le_of_lt hlow habove)
  have hgreatest : (num.log2 : Int) - den.log2 - 1 < 250 :=
    (zpow_lt_zpow_iff_right₀ (by norm_num)).mp (lt_of_lt_of_le hbelow hhigh)
  obtain ⟨hunit, -⟩ := unitOf_bounds hn hd
  have hexponent : unitOf num den (num.log2 - den.log2) < maxExponent := by
    simp only [unitOf, maxExponent]
    split <;> omega
  rw [ofRatio_eq_carried hn (by simp only [minExponent]; omega)]
  generalize unitOf num den (num.log2 - den.log2) = e at hunit hexponent
  obtain ⟨m, e', hm, hvalue⟩ := carried_eq hexponent false
    (m := roundDiv (inUnits num den e).1 (inUnits num den e).2)
  refine ⟨m, e', hm, ?_⟩
  have hround := abs_roundDiv_sub_le (inUnits num den e).1 (inUnits_pos num hd e)
  rw [inUnits_ratio] at hround
  have hpos : (0 : ℚ) < 2 ^ e := by positivity
  -- Half a unit is lost, and the ratio has at least `2 ^ 52` units.
  calc |(m : ℚ) * 2 ^ e' - num / den|
      = |(roundDiv (inUnits num den e).1 (inUnits num den e).2 : ℚ) - num / den / 2 ^ e|
          * 2 ^ e := by
        rw [hvalue, ← abs_of_pos hpos, ← abs_mul, abs_of_pos hpos, sub_mul,
          div_mul_cancel₀ _ hpos.ne']
    _ ≤ 1 / 2 * 2 ^ e := mul_le_mul_of_nonneg_right hround hpos.le
    _ = halfUnit * (2 ^ 52 * 2 ^ e) := by
        simp only [halfUnit]
        ring
    _ ≤ halfUnit * (num / den) := mul_le_mul_of_nonneg_left hunit halfUnit_nonneg

/-- An integer of at most 250 bits is rounded once. -/
theorem within_ofInt {n : Int} (hn : 0 ≤ n) (hhigh : (n : ℚ) ≤ 2 ^ (250 : Int)) :
    Within halfUnit (ofInt n) n := by
  obtain ⟨k, rfl⟩ := Int.eq_ofNat_of_zero_le hn
  have hsign : ofInt (k : Int) = ofRatio false k 1 := by
    have hneg : ¬(k : Int) < 0 := by omega
    simp [ofInt, hneg]
  rw [hsign]
  by_cases hk : k = 0
  · subst hk
    have hzero : ofRatio false 0 1 = zero false := by simp [ofRatio]
    rw [hzero]
    simpa using within_zero halfUnit
  · have hpos : 0 < k := by omega
    have hone : (1 : ℚ) ≤ k := by exact_mod_cast hpos
    have hsmall : (2 : ℚ) ^ (-250 : Int) ≤ 1 :=
      zpow_le_one_of_nonpos₀ (by norm_num) (by norm_num)
    have h := within_ofRatio hpos Nat.one_pos
      (by rw [Nat.cast_one, div_one]; linarith) (by simpa using hhigh)
    simpa using h

/-! ### Rounding a quotient -/

/-- The two magnitudes of a quotient are put in one unit, which keeps their ratio. -/
theorem within_divMagnitudes {m k : Nat} {e f : Int} (hm : 0 < m) (hk : 0 < k)
    (hlow : (2 : ℚ) ^ (-250 : Int) ≤ m * 2 ^ e / (k * 2 ^ f))
    (hhigh : (m : ℚ) * 2 ^ e / (k * 2 ^ f) ≤ 2 ^ (250 : Int)) :
    Within halfUnit (divMagnitudes false m e k f) (m * 2 ^ e / (k * 2 ^ f)) := by
  have hkQ : (0 : ℚ) < k := by exact_mod_cast hk
  have hf : (0 : ℚ) < 2 ^ f := by positivity
  have he : (0 : ℚ) < 2 ^ e := by positivity
  simp only [divMagnitudes]
  by_cases hle : f ≤ e
  · rw [if_pos hle]
    have hsame : (m : ℚ) * 2 ^ e / (k * 2 ^ f) = ((m * twoTo (e - f).toNat : Nat) : ℚ) / k := by
      rw [Nat.cast_mul, cast_twoTo_toNat (by omega), zpow_sub₀ (by norm_num)]
      field_simp
    rw [hsame] at hlow hhigh ⊢
    exact within_ofRatio (Nat.mul_pos hm (twoTo_pos _)) hk hlow hhigh
  · rw [if_neg hle]
    have hsame : (m : ℚ) * 2 ^ e / (k * 2 ^ f)
        = (m : ℚ) / ((k * twoTo (f - e).toNat : Nat) : ℚ) := by
      rw [Nat.cast_mul, cast_twoTo_toNat (by omega), zpow_sub₀ (by norm_num)]
      field_simp
    rw [hsame] at hlow hhigh ⊢
    exact within_ofRatio hm (Nat.mul_pos hk (twoTo_pos _)) hlow hhigh

/-- What one rounding makes of a number that is one or more. -/
theorem rounded_bounds {a q : ℚ} (h : |a - q| ≤ halfUnit * q) (hq : 1 ≤ q) :
    1 / 2 ≤ a ∧ a ≤ 2 * q := by
  rw [abs_le] at h
  have hsmall : halfUnit * q ≤ 1 / 2 * q :=
    mul_le_mul_of_nonneg_right (by norm_num [halfUnit]) (by linarith)
  constructor
  · linarith
  · linarith

/-- What is not small has a significand. -/
theorem significand_pos {m : Nat} {e : Int} (h : 1 / 2 ≤ (m : ℚ) * 2 ^ e) : 0 < m := by
  by_contra hzero
  rw [show m = 0 by omega] at h
  norm_num at h

/-- Nothing is lost of zero. -/
theorem significand_eq_zero {m : Nat} {e : Int} {ε : ℚ} (h : |(m : ℚ) * 2 ^ e - 0| ≤ ε * 0) :
    m = 0 := by
  have he : (0 : ℚ) < 2 ^ e := by positivity
  rw [sub_zero, mul_zero, abs_of_nonneg (by positivity)] at h
  have hmQ : (m : ℚ) ≤ 0 := by nlinarith
  exact_mod_cast le_antisymm hmQ (Nat.cast_nonneg m)

/-- The parts that two operands and their quotient lose come to four of them at most. -/
theorem abs_sub_div_le {a b q r z ε : ℚ} (hε : 0 ≤ ε) (hsmall : ε ≤ 1 / 5) (hq : 0 ≤ q)
    (hr : 0 < r) (ha : |a - q| ≤ ε * q) (hb : |b - r| ≤ ε * r) (hz : |z - a / b| ≤ ε * (a / b)) :
    |z - q / r| ≤ 4 * ε * (q / r) := by
  rw [abs_le] at ha hb hz ⊢
  have hbpos : 0 < b := by nlinarith
  have hanonneg : 0 ≤ a := by nlinarith
  have hqr : 0 ≤ q / r := by positivity
  -- The quotient of the rounded operands lies between these two.
  have hbelow : q / r * (1 - ε) ≤ a / b * (1 + ε) := by
    rw [div_mul_eq_mul_div, div_mul_eq_mul_div, div_le_div_iff₀ hr hbpos]
    have h1 : q * (1 - ε) ≤ a := by linarith
    have h2 : b ≤ r * (1 + ε) := by linarith
    calc q * (1 - ε) * b ≤ a * b := mul_le_mul_of_nonneg_right h1 hbpos.le
      _ ≤ a * (r * (1 + ε)) := mul_le_mul_of_nonneg_left h2 hanonneg
      _ = a * (1 + ε) * r := by ring
  have habove : a / b * (1 - ε) ≤ q / r * (1 + ε) := by
    rw [div_mul_eq_mul_div, div_mul_eq_mul_div, div_le_div_iff₀ hbpos hr]
    have h1 : a ≤ q * (1 + ε) := by linarith
    have h2 : r * (1 - ε) ≤ b := by linarith
    calc a * (1 - ε) * r = a * (r * (1 - ε)) := by ring
      _ ≤ a * b := mul_le_mul_of_nonneg_left h2 hanonneg
      _ ≤ q * (1 + ε) * b := mul_le_mul_of_nonneg_right h1 hbpos.le
  have hquotient : 0 ≤ a / b := by positivity
  generalize a / b = p at *
  generalize q / r = t at *
  constructor
  · nlinarith [mul_nonneg hε hqr, mul_nonneg hε hquotient]
  · nlinarith [mul_nonneg hε hqr, mul_nonneg hε hquotient]

/-- A quotient of two rounded numbers loses four times what one rounding can lose. -/
theorem within_div {x y : Binary64} {q r : ℚ} (hx : Within halfUnit x q)
    (hy : Within halfUnit y r) (hq : q = 0 ∨ 1 ≤ q) (hqhigh : q ≤ 2 ^ (200 : Int)) (hr : 1 ≤ r)
    (hrhigh : r ≤ 2 ^ (200 : Int)) : Within (4 * halfUnit) (div x y) (q / r) := by
  obtain ⟨m, e, rfl, ha⟩ := hx
  obtain ⟨k, f, rfl, hb⟩ := hy
  obtain ⟨hblow, hbhigh⟩ := rounded_bounds hb hr
  have hk : 0 < k := significand_pos hblow
  have hdiv : div (.finite false m e) (.finite false k f) = divMagnitudes false m e k f := by
    simp only [div, if_neg (show ¬k = 0 by omega)]
    rfl
  rw [hdiv]
  rcases hq with rfl | hq
  · have hzero : divMagnitudes false m e k f = zero false := by
      simp [divMagnitudes, significand_eq_zero ha, ofRatio]
    rw [hzero, zero_div]
    exact within_zero _
  · obtain ⟨halow, hahigh⟩ := rounded_bounds ha hq
    have hm : 0 < m := significand_pos halow
    -- Both operands are between a half and `2 ^ 201`, so the quotient is in range.
    have hbpos : (0 : ℚ) < k * 2 ^ f := by linarith
    have hlow : (2 : ℚ) ^ (-250 : Int) ≤ m * 2 ^ e / (k * 2 ^ f) := by
      rw [le_div_iff₀ hbpos]
      calc (2 : ℚ) ^ (-250 : Int) * (k * 2 ^ f)
          ≤ 2 ^ (-250 : Int) * (2 * 2 ^ (200 : Int)) :=
            mul_le_mul_of_nonneg_left (by linarith) (by positivity)
        _ ≤ 1 / 2 := by norm_num
        _ ≤ m * 2 ^ e := halow
    have hhigh : (m : ℚ) * 2 ^ e / (k * 2 ^ f) ≤ 2 ^ (250 : Int) := by
      rw [div_le_iff₀ hbpos]
      calc (m : ℚ) * 2 ^ e ≤ 2 * 2 ^ (200 : Int) := by linarith
        _ ≤ 2 ^ (250 : Int) * (1 / 2) := by norm_num
        _ ≤ 2 ^ (250 : Int) * (k * 2 ^ f) := mul_le_mul_of_nonneg_left hblow (by positivity)
    obtain ⟨n, g, hn, hz⟩ := within_divMagnitudes hm hk hlow hhigh
    exact ⟨n, g, hn,
      abs_sub_div_le halfUnit_nonneg halfUnit_le (by linarith) (by linarith) ha hb hz⟩

end Binary64

end ShareVault
