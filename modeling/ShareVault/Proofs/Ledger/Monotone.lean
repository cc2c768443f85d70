import Mathlib.Order.Bounds.Basic
import ShareVault.Proofs.Ledger.Parts

/-! # Rounding and monotony

    The fee is the least number that is not below the exact fee. Two fees are rounded
    up twice where one is rounded up once, so what is left of two amounts is what is
    left of both at once, or one unit less.

    The fee may rise by one unit when the amount does, but never by more. So what is left
    of a deposit never falls with the amount, and both previews, which round down by
    one fixed price, never fall either. As a deposit can be as great as need be, it is
    worth a share from one amount on: the threshold of the ledger.

    Main statements:
    - `isLeast_fee`, `net_add_le_succ`: the fee and what is left of parts;
    - `previewDeposit_mono`, `assetsFor_mono`: previews rise with the amount;
    - `exists_threshold`: which deposits would mint nothing.
-/

namespace ShareVault

namespace Terms

variable {t : Terms}

/-- The fee is the least number of units that is not below the exact fee. -/
theorem isLeast_fee (t : Terms) (amount : Int) :
    IsLeast {f | amount * t.feeBps ≤ bpsWhole * f} (t.fee amount) := by
  obtain ⟨hlow, hhigh⟩ := t.fee_bounds amount
  constructor
  · show amount * t.feeBps ≤ bpsWhole * t.fee amount
    rw [Int.mul_comm bpsWhole]
    exact hlow
  · intro f hf
    have hf' : amount * t.feeBps ≤ bpsWhole * f := hf
    -- One unit less than the fee is below the exact fee.
    have hlt : t.fee amount * bpsWhole < (f + 1) * bpsWhole := by
      rw [Int.add_mul, Int.one_mul, Int.mul_comm f]
      omega
    have := Int.lt_of_mul_lt_mul_right hlt (Int.le_of_lt bpsWhole_pos)
    omega

/-- What is left of two amounts at once is one unit more than what is left of each, at
    most. -/
theorem net_add_le_succ (t : Terms) (m n : Int) : t.net (m + n) ≤ t.net m + t.net n + 1 := by
  have hm := (t.fee_bounds m).2
  have hn := (t.fee_bounds n).2
  have hboth := (t.fee_bounds (m + n)).1
  -- Both fees are less than two units above the exact fee of both amounts.
  have hlt : (t.fee m + t.fee n) * bpsWhole < (t.fee (m + n) + 2) * bpsWhole := by
    calc (t.fee m + t.fee n) * bpsWhole
        = t.fee m * bpsWhole + t.fee n * bpsWhole := by ring
      _ < (m * t.feeBps + bpsWhole) + (n * t.feeBps + bpsWhole) := by omega
      _ = (m + n) * t.feeBps + 2 * bpsWhole := by ring
      _ ≤ t.fee (m + n) * bpsWhole + 2 * bpsWhole := by omega
      _ = (t.fee (m + n) + 2) * bpsWhole := by ring
  have := Int.lt_of_mul_lt_mul_right hlt (Int.le_of_lt bpsWhole_pos)
  unfold net
  omega

/-- What is left of a deposit does not fall when the amount rises. -/
theorem net_mono (ht : t.IsFair) {m n : Int} (h : m ≤ n) : t.net m ≤ t.net n := by
  have hrest := net_nonneg ht (Int.sub_nonneg_of_le h)
  have hparts := t.net_add_le m (n - m)
  rw [show m + (n - m) = n by omega] at hparts
  omega

/-- No fee takes more than all but one unit of every ten thousand. -/
theorem le_net_mul (ht : t.IsFair) {k : Int} (hk : 0 ≤ k) : k ≤ t.net (k * bpsWhole) := by
  have hfee := (t.isLeast_fee (k * bpsWhole)).2
  have hbelow : t.feeBps ≤ bpsWhole - 1 := Int.le_sub_one_of_lt ht.2
  have hless : t.fee (k * bpsWhole) ≤ k * (bpsWhole - 1) := by
    apply hfee
    show k * bpsWhole * t.feeBps ≤ bpsWhole * (k * (bpsWhole - 1))
    have hwhole : 0 ≤ k * bpsWhole := Int.mul_nonneg hk (Int.le_of_lt bpsWhole_pos)
    calc k * bpsWhole * t.feeBps ≤ k * bpsWhole * (bpsWhole - 1) :=
          Int.mul_le_mul_of_nonneg_left hbelow hwhole
      _ = bpsWhole * (k * (bpsWhole - 1)) := by ring
  have hwhole : k * bpsWhole - k * (bpsWhole - 1) = k := by ring
  unfold net
  omega

end Terms

namespace Ledger

variable {t : Terms} {l : Ledger}

/-! ## Previews -/

/-- More shares are worth more assets. -/
theorem assetsFor_mono (hA : 0 ≤ l.totalAssets) (hS : 0 ≤ l.totalSupply) {m n : Int}
    (h : m ≤ n) : l.assetsFor m ≤ l.assetsFor n := by
  by_cases hnone : l.totalSupply = 0
  · rw [assetsFor_of_no_shares hnone, assetsFor_of_no_shares hnone]
    exact h
  · have hpos : 0 < l.totalSupply := by omega
    rw [assetsFor_of_shares hpos, assetsFor_of_shares hpos]
    apply Int.ediv_le_ediv hpos
    exact Int.mul_le_mul_of_nonneg_right h hA

/-- A greater deposit mints no fewer shares. -/
theorem previewDeposit_mono (ht : t.IsFair) (hA : 0 ≤ l.totalAssets) (hS : 0 ≤ l.totalSupply)
    {m n : Int} (h : m ≤ n) : l.previewDeposit t m ≤ l.previewDeposit t n :=
  sharesFor_mono hA hS (Terms.net_mono ht h)

/-! ## The threshold -/

/-- All assets and one unit more are worth a share. -/
theorem sharesFor_pos (hA : 0 ≤ l.totalAssets) (hS : 0 ≤ l.totalSupply) :
    0 < l.sharesFor (l.totalAssets + 1) := by
  by_cases hnone : l.totalSupply = 0 ∨ l.totalAssets = 0
  · unfold sharesFor
    rw [if_pos hnone]
    omega
  · have hApos : 0 < l.totalAssets := by omega
    have hSpos : 0 < l.totalSupply := by omega
    have hworth : 1 * l.totalAssets ≤ (l.totalAssets + 1) * l.totalSupply := by
      calc 1 * l.totalAssets ≤ (l.totalAssets + 1) * 1 := by omega
        _ ≤ (l.totalAssets + 1) * l.totalSupply :=
          Int.mul_le_mul_of_nonneg_left hSpos (by omega)
    rw [sharesFor_of_price hApos hSpos]
    exact Int.le_ediv_of_mul_le hApos hworth

/-- Some deposit mints something. -/
theorem exists_previewDeposit_pos (ht : t.IsFair) (hA : 0 ≤ l.totalAssets)
    (hS : 0 ≤ l.totalSupply) : ∃ n : Nat, 0 < l.previewDeposit t n := by
  have hwhole : 0 ≤ (l.totalAssets + 1) * Terms.bpsWhole :=
    Int.mul_nonneg (by omega) (Int.le_of_lt Terms.bpsWhole_pos)
  obtain ⟨n, hn⟩ := Int.eq_ofNat_of_zero_le hwhole
  have hnet : l.totalAssets + 1 ≤ t.net n := by
    rw [← hn]
    exact Terms.le_net_mul ht (by omega)
  have hworth : l.sharesFor (l.totalAssets + 1) ≤ l.previewDeposit t n :=
    sharesFor_mono hA hS hnet
  have hpos := sharesFor_pos hA hS
  exact ⟨n, by omega⟩

/-- The deposits that would mint nothing are those below one threshold. -/
theorem exists_threshold (ht : t.IsFair) (hA : 0 ≤ l.totalAssets) (hS : 0 ≤ l.totalSupply) :
    ∃ threshold : Int, ∀ n, 0 ≤ n → (l.previewDeposit t n = 0 ↔ n < threshold) := by
  have hsome := exists_previewDeposit_pos ht hA hS
  refine ⟨Nat.find hsome, ?_⟩
  intro n hn
  obtain ⟨k, rfl⟩ := Int.eq_ofNat_of_zero_le hn
  have hnonneg : 0 ≤ l.previewDeposit t k := sharesFor_nonneg hA hS (Terms.net_nonneg ht hn)
  rw [Int.ofNat_lt]
  constructor
  · intro hnothing
    -- From the least deposit that mints something on, all deposits do.
    by_contra hover
    have hleast := Nat.find_spec hsome
    have hmore := previewDeposit_mono ht hA hS (Int.ofNat_le.mpr (Nat.le_of_not_lt hover))
    omega
  · intro hbelow
    have hleast := Nat.find_min hsome hbelow
    omega

end Ledger

end ShareVault
