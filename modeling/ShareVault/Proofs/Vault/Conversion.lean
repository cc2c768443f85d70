import ShareVault.Proofs.Ledger.Parts
import ShareVault.Proofs.Vault.Answered

/-! # There and back

    What assets are worth in shares, converted back, is not more than it was, and short
    of it by one unit more than a share is worth at most: one conversion loses less than
    a share, the other less than a unit.

    This needs a price. Where shares are worth nothing, any number of them may be
    named as the worth of the assets, and the way back ends at nothing.

    Main statements:
    - `lt_sharesFor_add_one_mul`, `lt_assetsFor_add_one_mul`: what a conversion loses is
      less than one unit;
    - `assetsFor_sharesFor_le`, `le_assetsFor_sharesFor`: the way there and back;
    - `convert_round_trip`: the same for what a vault answers.
-/

namespace ShareVault

namespace Ledger

variable {l : Ledger}

/-- One share more would be worth more than the assets. -/
theorem lt_sharesFor_add_one_mul (hA : 0 < l.totalAssets) (hS : 0 < l.totalSupply)
    (assets : Int) : assets * l.totalSupply < (l.sharesFor assets + 1) * l.totalAssets := by
  rw [sharesFor_of_price hA hS]
  exact Int.lt_ediv_add_one_mul_self _ hA

/-- One unit more would be more than the shares are worth. -/
theorem lt_assetsFor_add_one_mul (hS : 0 < l.totalSupply) (shares : Int) :
    shares * l.totalAssets < (l.assetsFor shares + 1) * l.totalSupply := by
  rw [assetsFor_of_shares hS]
  exact Int.lt_ediv_add_one_mul_self _ hS

/-- Without shares nothing is rounded. -/
theorem assetsFor_sharesFor_of_no_shares (h : l.totalSupply = 0) (x : Int) :
    l.assetsFor (l.sharesFor x) = x := by
  rw [assetsFor_of_no_shares h]
  unfold sharesFor
  rw [if_pos (.inl h)]

/-- Shares that are worth nothing are converted to nothing. -/
theorem assetsFor_of_worthless (hS : 0 < l.totalSupply) (hA : l.totalAssets = 0) (shares : Int) :
    l.assetsFor shares = 0 := by
  rw [assetsFor_of_shares hS, hA, Int.mul_zero, Int.zero_ediv]

/-- What comes back is not more than what went in. -/
theorem assetsFor_sharesFor_le (hA : 0 ≤ l.totalAssets) (hS : 0 ≤ l.totalSupply) {x : Int}
    (hx : 0 ≤ x) : l.assetsFor (l.sharesFor x) ≤ x := by
  by_cases hnone : l.totalSupply = 0
  · rw [assetsFor_sharesFor_of_no_shares hnone]
  · have hpos : 0 < l.totalSupply := by omega
    have hback := assetsFor_mul_le hpos (l.sharesFor x)
    have hshares := sharesFor_mul_le hA hpos hx
    exact Int.le_of_mul_le_mul_right (Int.le_trans hback hshares) hpos

/-- What comes back is short of what went in by one unit more than the worth of a share
    at most, unless shares are worth nothing. -/
theorem le_assetsFor_sharesFor (h : l.IsSolvent) (hS : 0 ≤ l.totalSupply) (x : Int) :
    x ≤ l.assetsFor (l.sharesFor x) + l.assetsFor 1 + 1 := by
  by_cases hnone : l.totalSupply = 0
  · rw [assetsFor_sharesFor_of_no_shares hnone, assetsFor_of_no_shares hnone]
    omega
  · have hSpos : 0 < l.totalSupply := by omega
    have hA : 0 < l.totalAssets := h.resolve_left hnone
    -- One share is lost on the way there, one unit on the way back, and one unit by
    -- counting the share in whole units.
    have hthere := lt_sharesFor_add_one_mul hA hSpos x
    have hback := lt_assetsFor_add_one_mul hSpos (l.sharesFor x)
    have hunit := lt_assetsFor_add_one_mul hSpos 1
    rw [Int.one_mul] at hunit
    have hlt : x * l.totalSupply
        < (l.assetsFor (l.sharesFor x) + l.assetsFor 1 + 2) * l.totalSupply := by
      calc x * l.totalSupply < (l.sharesFor x + 1) * l.totalAssets := hthere
        _ = l.sharesFor x * l.totalAssets + l.totalAssets := by ring
        _ < (l.assetsFor (l.sharesFor x) + 1) * l.totalSupply
            + (l.assetsFor 1 + 1) * l.totalSupply := by omega
        _ = (l.assetsFor (l.sharesFor x) + l.assetsFor 1 + 2) * l.totalSupply := by ring
    have := Int.lt_of_mul_lt_mul_right hlt hS
    omega

end Ledger

namespace Vault

variable {H : Type} [Handler H] {v : Vault H}

/-- An amount converted to shares and back is not more than it was. It is short of what
    it was by one unit more than the answer for one share at most, unless there are
    shares but no assets; then every amount is converted to as many shares, and any
    shares to nothing. -/
theorem convert_round_trip (hA : 0 ≤ v.ledger.totalAssets) (hS : 0 ≤ v.ledger.totalSupply)
    {x : Int} (hx : 0 ≤ x) :
    ∃ shares back unit, v.answer (.convertToShares x) = .ok (.int shares)
      ∧ v.answer (.convertToAssets shares) = .ok (.int back)
      ∧ v.answer (.convertToAssets 1) = .ok (.int unit)
      ∧ 0 ≤ x - back
      ∧ (¬ (0 < v.ledger.totalSupply ∧ v.ledger.totalAssets = 0) → x - back ≤ unit + 1)
      ∧ (0 < v.ledger.totalSupply ∧ v.ledger.totalAssets = 0 →
        shares = x ∧ back = 0 ∧ unit = 0) := by
  refine ⟨_, _, _, answer_eq_ask .., answer_eq_ask .., answer_eq_ask .., ?_, ?_, ?_⟩
  · have := Ledger.assetsFor_sharesFor_le hA hS hx
    omega
  · intro hworth
    have hsolvent : v.ledger.IsSolvent := by
      unfold Ledger.IsSolvent
      omega
    have := Ledger.le_assetsFor_sharesFor hsolvent hS x
    omega
  · intro hworthless
    obtain ⟨hshares, hassets⟩ := hworthless
    refine ⟨?_, Ledger.assetsFor_of_worthless hshares hassets _,
      Ledger.assetsFor_of_worthless hshares hassets 1⟩
    unfold Ledger.sharesFor
    rw [if_pos (.inr hassets)]

/-- After the yield a share is worth 6 units, and 6 come back of 11. -/
theorem convert_round_trip_dearRun : ∃ v : Vault KeeperList,
    0 ≤ v.ledger.totalAssets ∧ 0 ≤ v.ledger.totalSupply ∧ (0 : Int) ≤ 11
    ∧ v.answer (.convertToShares 11) = .ok (.int 1)
    ∧ v.answer (.convertToAssets 1) = .ok (.int 6)
    ∧ (0 : Int) ≤ 11 - 6 ∧ (11 : Int) - 6 ≤ 6 + 1 := by
  obtain ⟨start, -, hA, hS, hworth, hshares, hunit⟩ := exists_isNew_of_createSample
    (p := fun v => 0 ≤ (v.after dearRun).ledger.totalAssets
      ∧ 0 ≤ (v.after dearRun).ledger.totalSupply
      ∧ ¬ (0 < (v.after dearRun).ledger.totalSupply ∧ (v.after dearRun).ledger.totalAssets = 0)
      ∧ (v.after dearRun).ledger.sharesFor 11 = 1
      ∧ (v.after dearRun).ledger.assetsFor 1 = 6)
    (by decide +kernel)
  obtain ⟨shares, back, unit, hthere, hback, hone, hmore, hless, -⟩ :=
    convert_round_trip hA hS (by decide : (0 : Int) ≤ 11)
  have hshares' : (start.after dearRun).answer (.convertToShares 11) = .ok (.int 1) := by
    simp only [answer_eq_ask, ask, hshares]
  have hunit' : (start.after dearRun).answer (.convertToAssets 1) = .ok (.int 6) := by
    simp only [answer_eq_ask, ask, hunit]
  rw [hshares', Except.ok.injEq, Value.int.injEq] at hthere
  subst hthere
  rw [hunit', Except.ok.injEq, Value.int.injEq] at hback hone
  subst hback hone
  exact ⟨_, hA, hS, by decide, hshares', hunit', hmore, hless hworth⟩

/-- A deposit, and the loss of all that it brought in. -/
def ruinRun : List Act := [.command (.deposit 1000 none) "alice" 1000, .outside (-997)]

/-- After the loss 5 assets are converted to 5 shares, and these to nothing; and one share
    is converted to nothing too, so the difference is more than one unit above that. -/
theorem convert_worthless_shares : ∃ v : Vault KeeperList, v.Reachable
    ∧ 0 ≤ v.ledger.totalAssets ∧ 0 ≤ v.ledger.totalSupply
    ∧ ∃ back unit, v.answer (.convertToShares 5) = .ok (.int 5)
      ∧ v.answer (.convertToAssets 5) = .ok (.int back)
      ∧ v.answer (.convertToAssets 1) = .ok (.int unit)
      ∧ ¬ (0 ≤ 5 - back ∧ 5 - back ≤ unit + 1) := by
  obtain ⟨start, hnew, hpast, hA, hS, hshares, hback⟩ := exists_isNew_of_createSample
    (p := fun v => v.Lawful ruinRun ∧ 0 ≤ (v.after ruinRun).ledger.totalAssets
      ∧ 0 ≤ (v.after ruinRun).ledger.totalSupply
      ∧ (v.after ruinRun).ledger.sharesFor 5 = 5
      ∧ ¬ (0 ≤ 5 - (v.after ruinRun).ledger.assetsFor 5
        ∧ 5 - (v.after ruinRun).ledger.assetsFor 5
          ≤ (v.after ruinRun).ledger.assetsFor 1 + 1))
    (by decide +kernel)
  have hthere : (start.after ruinRun).answer (.convertToShares 5) = .ok (.int 5) := by
    simp only [answer_eq_ask, ask, hshares]
  exact ⟨_, (Reachable.of_isNew hnew).after hpast, hA, hS, _, _, hthere, answer_eq_ask ..,
    answer_eq_ask .., hback⟩

end Vault

end ShareVault
