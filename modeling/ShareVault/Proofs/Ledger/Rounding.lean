import ShareVault.Ledger.Basic
import Mathlib.Tactic.Linarith
import Mathlib.Tactic.Ring

/-! # Rounding

    The fee is rounded up and both conversions are rounded down. What is needed
    of them later are not their values but which side of the exact ratio they
    fall on, with all denominators cleared.

    Main statements:
    - `fee_bounds`: the fee is the exact fee, rounded up;
    - `fee_nonneg`, `fee_le`, `net_nonneg`, `net_le`: the fee and the rest are parts
      of a deposit;
    - `sharesFor_mul_le`, `assetsFor_mul_le`: neither conversion gives more than
      the exact worth.
-/

namespace ShareVault

namespace Terms

/-- The fee is part of every deposit, and never all of it. -/
def IsFair (t : Terms) : Prop := 0 ≤ t.feeBps ∧ t.feeBps < bpsWhole

theorem bpsWhole_pos : 0 < bpsWhole := by decide

/-- The fee is not below the exact fee, and less than one unit above it. -/
theorem fee_bounds (t : Terms) (amount : Int) :
    amount * t.feeBps ≤ t.fee amount * bpsWhole
      ∧ t.fee amount * bpsWhole < amount * t.feeBps + bpsWhole := by
  have hdiv : t.fee amount = -((-amount * t.feeBps) / bpsWhole) := by
    unfold fee
    rw [Int.fdiv_eq_ediv_of_nonneg _ (by decide)]
  have hlow := Int.ediv_mul_le (-amount * t.feeBps) (b := bpsWhole) (by decide)
  have hhigh := Int.lt_ediv_add_one_mul_self (-amount * t.feeBps) (b := bpsWhole) bpsWhole_pos
  have hneg : -amount * t.feeBps = -(amount * t.feeBps) := Int.neg_mul _ _
  rw [hdiv]
  rw [hneg] at hlow hhigh ⊢
  constructor
  · linarith
  · linarith

theorem fee_nonneg {t : Terms} (h : t.IsFair) {amount : Int} (ha : 0 ≤ amount) :
    0 ≤ t.fee amount := by
  have hexact : 0 ≤ amount * t.feeBps := Int.mul_nonneg ha h.1
  have hfee := (t.fee_bounds amount).1
  have hmul : 0 * bpsWhole ≤ t.fee amount * bpsWhole := by omega
  exact Int.le_of_mul_le_mul_right hmul bpsWhole_pos

theorem fee_le {t : Terms} (h : t.IsFair) {amount : Int} (ha : 0 ≤ amount) :
    t.fee amount ≤ amount := by
  have hexact : amount * t.feeBps ≤ amount * bpsWhole :=
    Int.mul_le_mul_of_nonneg_left (Int.le_of_lt h.2) ha
  have hfee := (t.fee_bounds amount).2
  -- One unit more than the whole deposit would already be too much.
  have hlt : t.fee amount * bpsWhole < (amount + 1) * bpsWhole := by
    rw [Int.add_mul, Int.one_mul]
    omega
  have := Int.lt_of_mul_lt_mul_right hlt (Int.le_of_lt bpsWhole_pos)
  omega

theorem net_nonneg {t : Terms} (h : t.IsFair) {amount : Int} (ha : 0 ≤ amount) :
    0 ≤ t.net amount := by
  have := fee_le h ha
  unfold net
  omega

theorem net_le {t : Terms} (h : t.IsFair) {amount : Int} (ha : 0 ≤ amount) :
    t.net amount ≤ amount := by
  have := fee_nonneg h ha
  unfold net
  omega

end Terms

namespace Ledger

/-! ## Conversions -/

/-- Without shares there is no price to round by. -/
theorem assetsFor_of_no_shares {l : Ledger} (h : l.totalSupply = 0) (shares : Int) :
    l.assetsFor shares = shares := by
  unfold assetsFor
  rw [if_pos h]

/-- With shares outstanding, shares are worth their part of the assets. -/
theorem assetsFor_of_shares {l : Ledger} (h : 0 < l.totalSupply) (shares : Int) :
    l.assetsFor shares = shares * l.totalAssets / l.totalSupply := by
  unfold assetsFor
  rw [if_neg (by omega), Int.fdiv_eq_ediv_of_nonneg _ (Int.le_of_lt h)]

theorem assetsFor_nonneg {l : Ledger} (hA : 0 ≤ l.totalAssets) (hS : 0 ≤ l.totalSupply)
    {shares : Int} (h : 0 ≤ shares) : 0 ≤ l.assetsFor shares := by
  rcases Int.lt_or_eq_of_le hS with hpos | hzero
  · rw [assetsFor_of_shares hpos]
    exact Int.ediv_nonneg (Int.mul_nonneg h hA) hS
  · rw [assetsFor_of_no_shares hzero.symm]
    exact h

/-- A payment is not more than the exact worth of the shares. -/
theorem assetsFor_mul_le {l : Ledger} (h : 0 < l.totalSupply) (shares : Int) :
    l.assetsFor shares * l.totalSupply ≤ shares * l.totalAssets := by
  rw [assetsFor_of_shares h]
  exact Int.ediv_mul_le _ (by omega)

/-- Shares that are all there are, or fewer, are worth no more than all assets. -/
theorem assetsFor_le {l : Ledger} (hA : 0 ≤ l.totalAssets) (hS : 0 < l.totalSupply)
    {shares : Int} (h : shares ≤ l.totalSupply) : l.assetsFor shares ≤ l.totalAssets := by
  have hpaid := assetsFor_mul_le hS shares
  have hpart : shares * l.totalAssets ≤ l.totalSupply * l.totalAssets :=
    Int.mul_le_mul_of_nonneg_right h hA
  rw [Int.mul_comm l.totalSupply] at hpart
  exact Int.le_of_mul_le_mul_right (Int.le_trans hpaid hpart) hS

/-- All shares together are worth all assets, with nothing lost to rounding. -/
theorem assetsFor_totalSupply {l : Ledger} (h : 0 < l.totalSupply) :
    l.assetsFor l.totalSupply = l.totalAssets := by
  rw [assetsFor_of_shares h]
  exact Int.mul_ediv_cancel_left _ (by omega)

/-- With shares and assets there is a price, and assets are worth their part of the
    shares. -/
theorem sharesFor_of_price {l : Ledger} (hA : 0 < l.totalAssets) (hS : 0 < l.totalSupply)
    (assets : Int) : l.sharesFor assets = assets * l.totalSupply / l.totalAssets := by
  unfold sharesFor
  rw [if_neg (by omega), Int.fdiv_eq_ediv_of_nonneg _ (Int.le_of_lt hA)]

theorem sharesFor_nonneg {l : Ledger} (hA : 0 ≤ l.totalAssets) (hS : 0 ≤ l.totalSupply)
    {assets : Int} (h : 0 ≤ assets) : 0 ≤ l.sharesFor assets := by
  unfold sharesFor
  split
  · exact h
  · rw [Int.fdiv_eq_ediv_of_nonneg _ hA]
    exact Int.ediv_nonneg (Int.mul_nonneg h hS) hA

/-- With shares outstanding, what is minted is not more than the exact worth of
    the assets; while the shares are worth nothing, any number of them is. -/
theorem sharesFor_mul_le {l : Ledger} (hA : 0 ≤ l.totalAssets) (hS : 0 < l.totalSupply)
    {assets : Int} (h : 0 ≤ assets) :
    l.sharesFor assets * l.totalAssets ≤ assets * l.totalSupply := by
  unfold sharesFor
  by_cases hzero : l.totalAssets = 0
  · rw [if_pos (Or.inr hzero), hzero, Int.mul_zero]
    exact Int.mul_nonneg h (Int.le_of_lt hS)
  · rw [if_neg (by omega), Int.fdiv_eq_ediv_of_nonneg _ hA]
    exact Int.ediv_mul_le _ hzero

end Ledger

end ShareVault
