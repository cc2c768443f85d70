import ShareVault.Proofs.Ledger.Price

/-! # Amounts in parts

    An amount can be deposited or redeemed at once, or cut into two parts of which one
    follows the other. Either part is rounded in favour of the vault, and the first
    one changes the price for the second.

    For a deposit both effects point the same way: the second part finds shares that
    are not cheaper. For a redeem they do not. What the first part lost to rounding
    makes the shares that are left dearer, and the second part is paid some of it
    back; but as it is only a part of those shares, it never gets all of it back.

    Main statements:
    - `net_add_le`: the fees of two parts are not less than the fee of both;
    - `previewDeposit_add_le`, `previewRedeem_add_le`: two parts never give more than
      both at once.
-/

namespace ShareVault

namespace Terms

/-- Two fees that are rounded up are not less than the fee of both amounts, so not
    more is left of the parts. -/
theorem net_add_le (t : Terms) (m n : Int) : t.net m + t.net n ≤ t.net (m + n) := by
  have hm := (t.fee_bounds m).1
  have hn := (t.fee_bounds n).1
  have hboth := (t.fee_bounds (m + n)).2
  -- One unit more than both fees would already be too much for the fee of both.
  have hlt : t.fee (m + n) * bpsWhole < (t.fee m + t.fee n + 1) * bpsWhole := by
    calc t.fee (m + n) * bpsWhole < (m + n) * t.feeBps + bpsWhole := hboth
      _ = m * t.feeBps + n * t.feeBps + bpsWhole := by ring
      _ ≤ t.fee m * bpsWhole + t.fee n * bpsWhole + bpsWhole := by omega
      _ = (t.fee m + t.fee n + 1) * bpsWhole := by ring
  have hfee := Int.lt_of_mul_lt_mul_right hlt (Int.le_of_lt bpsWhole_pos)
  unfold net
  omega

end Terms

namespace Ledger

variable {t : Terms} {l l' : Ledger}

/-! ## Deposits -/

/-- There are no shares yet, or they are worth something. Only a loss of all assets
    leaves shares that are worth nothing. -/
def IsSolvent (l : Ledger) : Prop := l.totalSupply = 0 ∨ 0 < l.totalAssets

/-- More assets are worth more shares. -/
theorem sharesFor_mono (hA : 0 ≤ l.totalAssets) (hS : 0 ≤ l.totalSupply) {m n : Int}
    (h : m ≤ n) : l.sharesFor m ≤ l.sharesFor n := by
  unfold sharesFor
  split
  · exact h
  · rw [Int.fdiv_eq_ediv_of_nonneg _ hA, Int.fdiv_eq_ediv_of_nonneg _ hA]
    apply Int.ediv_le_ediv
    · omega
    · exact Int.mul_le_mul_of_nonneg_right h hS

/-- Where a share is worth an asset or more, assets are worth no more shares than
    there are assets. -/
theorem sharesFor_le_self (hS : 0 ≤ l.totalSupply) (hpar : l.totalSupply ≤ l.totalAssets)
    {n : Int} (hn : 0 ≤ n) : l.sharesFor n ≤ n := by
  by_cases hzero : l.totalSupply = 0 ∨ l.totalAssets = 0
  · unfold sharesFor
    rw [if_pos hzero]
  · have hminted : l.sharesFor n * l.totalAssets ≤ n * l.totalSupply :=
      sharesFor_mul_le (by omega) (by omega) hn
    have hmore : n * l.totalSupply ≤ n * l.totalAssets := Int.mul_le_mul_of_nonneg_left hpar hn
    exact Int.le_of_mul_le_mul_right (Int.le_trans hminted hmore) (by omega)

/-- Two amounts of assets, of which the first one is there already with the shares
    minted for it, are worth no more than both at once. -/
theorem sharesFor_add_le (hsolvent : l.IsSolvent) (hAnonneg : 0 ≤ l.totalAssets)
    (hSnonneg : 0 ≤ l.totalSupply) {m n : Int} (hm : 0 ≤ m) (hn : 0 ≤ n)
    (hA : l'.totalAssets = l.totalAssets + m)
    (hS : l'.totalSupply = l.totalSupply + l.sharesFor m) :
    l.sharesFor m + l'.sharesFor n ≤ l.sharesFor (m + n) := by
  by_cases hnone : l.totalSupply = 0
  · -- The first part is minted one for one, and then shares are at par or above.
    have hone : ∀ k, l.sharesFor k = k := by
      intro k
      unfold sharesFor
      rw [if_pos (.inl hnone)]
    rw [hone] at hS ⊢
    rw [hone]
    have hsecond : l'.sharesFor n ≤ n := sharesFor_le_self (by omega) (by omega) hn
    omega
  · have hApos : 0 < l.totalAssets := hsolvent.resolve_left hnone
    have hSpos : 0 < l.totalSupply := by omega
    have hfirst : l.sharesFor m * l.totalAssets ≤ m * l.totalSupply :=
      sharesFor_mul_le hAnonneg hSpos hm
    have hminted : 0 ≤ l.sharesFor m := sharesFor_nonneg hAnonneg hSnonneg hm
    have hsecond : l'.sharesFor n * l'.totalAssets ≤ n * l'.totalSupply :=
      sharesFor_mul_le (by omega) (by omega) hn
    have hsecond_nonneg : 0 ≤ l'.sharesFor n := sharesFor_nonneg (by omega) (by omega) hn
    have hprice : l.totalAssets * l'.totalSupply ≤ l'.totalAssets * l.totalSupply := by
      rw [hA, hS]
      linarith
    -- At the price before the first part the second one is worth no less.
    have hbefore : l'.sharesFor n * l.totalAssets ≤ n * l.totalSupply := by
      have hdearer := Int.mul_le_mul_of_nonneg_left hprice hsecond_nonneg
      have hless := Int.mul_le_mul_of_nonneg_right hsecond hSnonneg
      have hmul : l'.sharesFor n * l.totalAssets * l'.totalSupply
          ≤ n * l.totalSupply * l'.totalSupply := by
        calc l'.sharesFor n * l.totalAssets * l'.totalSupply
            = l'.sharesFor n * (l.totalAssets * l'.totalSupply) := by ring
          _ ≤ l'.sharesFor n * (l'.totalAssets * l.totalSupply) := hdearer
          _ = l'.sharesFor n * l'.totalAssets * l.totalSupply := by ring
          _ ≤ n * l'.totalSupply * l.totalSupply := hless
          _ = n * l.totalSupply * l'.totalSupply := by ring
      exact Int.le_of_mul_le_mul_right hmul (by omega)
    have hboth : (l.sharesFor m + l'.sharesFor n) * l.totalAssets ≤ (m + n) * l.totalSupply := by
      linarith
    rw [sharesFor_of_price hApos hSpos (m + n)]
    exact Int.le_ediv_of_mul_le hApos hboth

/-- A deposit leaves a vault solvent that was. -/
theorem IsSolvent.afterDeposit (h : l.IsSolvent) (hl : l.Sound) (ht : t.IsFair) {gross : Int}
    (hgross : 0 < gross) (hminted : l.previewDeposit t gross ≠ 0) (recipient : Text) :
    (l.afterDeposit t gross (l.previewDeposit t gross) recipient).IsSolvent := by
  have hnet := Terms.net_nonneg ht (Int.le_of_lt hgross)
  have hassets := hl.assets_nonneg
  right
  show 0 < l.totalAssets + t.net gross
  by_cases hnone : l.totalSupply = 0
  · -- What was minted without a price is what came in.
    have hone : l.previewDeposit t gross = t.net gross := by
      unfold previewDeposit sharesFor
      rw [if_pos (.inl hnone)]
    omega
  · have := h.resolve_left hnone
    omega

/-- A deposit in two parts mints no more than one of both. -/
theorem previewDeposit_add_le (hsolvent : l.IsSolvent) (hl : l.Sound) (ht : t.IsFair)
    {m n : Int} (hm : 0 ≤ m) (hn : 0 ≤ n) (recipient : Text) :
    l.previewDeposit t m
        + (l.afterDeposit t m (l.previewDeposit t m) recipient).previewDeposit t n
      ≤ l.previewDeposit t (m + n) := by
  have hparts : l.sharesFor (t.net m)
        + (l.afterDeposit t m (l.previewDeposit t m) recipient).sharesFor (t.net n)
      ≤ l.sharesFor (t.net m + t.net n) :=
    sharesFor_add_le hsolvent hl.assets_nonneg hl.supply_nonneg (Terms.net_nonneg ht hm)
      (Terms.net_nonneg ht hn) rfl rfl
  have hfees : l.sharesFor (t.net m + t.net n) ≤ l.sharesFor (t.net (m + n)) :=
    sharesFor_mono hl.assets_nonneg hl.supply_nonneg (t.net_add_le m n)
  exact Int.le_trans hparts hfees

/-! ## Redeems -/

/-- A redeem in two parts of shares that there are pays no more than one of both. -/
theorem previewRedeem_add_le {m n : Int} (hm : 0 ≤ m) (hn : 0 ≤ n)
    (hmax : m + n ≤ l.totalSupply) (sender recipient : Text) :
    l.previewRedeem m
        + (l.afterRedeem m (l.previewRedeem m) sender recipient).previewRedeem n
      ≤ l.previewRedeem (m + n) := by
  generalize hl' : l.afterRedeem m (l.previewRedeem m) sender recipient = l'
  have hA' : l'.totalAssets = l.totalAssets - l.previewRedeem m := by rw [← hl']; rfl
  have hS' : l'.totalSupply = l.totalSupply - m := by rw [← hl']; rfl
  by_cases hrest : l'.totalSupply = 0
  · -- The first part are all shares, and nothing is left for the second one.
    have hnone : n = 0 := by omega
    rw [hnone, previewRedeem_zero, Int.add_zero, Int.add_zero]
  · have hS : 0 < l.totalSupply := by omega
    have hfirst : l.previewRedeem m * l.totalSupply ≤ m * l.totalAssets := assetsFor_mul_le hS m
    have hsecond : l'.previewRedeem n * l'.totalSupply ≤ n * l'.totalAssets :=
      assetsFor_mul_le (by omega) n
    -- What the first part lost to rounding, weighed with the shares that stay after both.
    have hlost : 0 ≤ (m * l.totalAssets - l.previewRedeem m * l.totalSupply)
        * (l'.totalSupply - n) := Int.mul_nonneg (by omega) (by omega)
    have hmul : (l.previewRedeem m + l'.previewRedeem n) * l.totalSupply * l'.totalSupply
        ≤ (m + n) * l.totalAssets * l'.totalSupply := by
      have hscaled := Int.mul_le_mul_of_nonneg_right hsecond (Int.le_of_lt hS)
      rw [hA', hS'] at hscaled
      rw [hS'] at hlost ⊢
      linarith
    have hboth : (l.previewRedeem m + l'.previewRedeem n) * l.totalSupply
        ≤ (m + n) * l.totalAssets := Int.le_of_mul_le_mul_right hmul (by omega)
    have hquote : l.previewRedeem (m + n) = (m + n) * l.totalAssets / l.totalSupply :=
      assetsFor_of_shares hS (m + n)
    rw [hquote]
    exact Int.le_ediv_of_mul_le hS hboth

end Ledger

end ShareVault
