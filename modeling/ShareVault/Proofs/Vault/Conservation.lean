import ShareVault.Proofs.Vault.Run

/-! # Nothing appears and nothing gets lost

    After any run of a new vault the balances add up to the supply, nothing is
    negative, and all that was deposited is still there, was kept as a fee, or
    was paid, but for what came from outside. Each account of an address is the
    sum of what the receipts of the run have for it.

    Main statements:
    - `accounted_after`: the accounts of a vault are accounted for after any run.
-/

namespace ShareVault

open Receipt

/-- Accounts that began empty and in which every entry goes back to a receipt. -/
structure Ledger.Accounted (l : Ledger) (rs : List Receipt) : Prop where
  balances_nonneg : ∀ a, 0 ≤ l.balances.get a
  keys_nodup : l.balances.keys.Nodup
  total_balances : l.balances.total = l.totalSupply
  assets_nonneg : 0 ≤ l.totalAssets
  /-- What is there, was kept and was paid is what was deposited, and the yield. -/
  conserved : l.totalAssets + l.feesCollected + l.paidOut.total
    = l.deposited.total + sum yielded rs
  balance : ∀ a, l.balances.get a = sum (mintedTo a) rs - sum (burnedFrom a) rs
  credited : ∀ a, l.deposited.get a = sum (creditedTo a) rs
  sent : ∀ a, l.paidOut.get a = sum (sentTo a) rs

/-- Receipts that are due from the start account for everything. -/
theorem Ledger.accounted_postAll {t : Terms} (ht : t.IsFair) {rs : List Receipt}
    (hrs : Ledger.empty.AreDue t rs) : (Ledger.empty.postAll t rs).Accounted rs := by
  have hsound : (Ledger.empty.postAll t rs).Sound := Sound.empty.postAll ht hrs
  have hzero : Ledger.empty.surplus = 0 := rfl
  have hnone : ∀ a, Ledger.empty.balances.get a = 0 ∧ Ledger.empty.deposited.get a = 0
      ∧ Ledger.empty.paidOut.get a = 0 := fun _ => ⟨rfl, rfl, rfl⟩
  refine ⟨hsound.balances_nonneg, hsound.keys_nodup, hsound.total_balances,
    hsound.assets_nonneg, ?_, ?_, ?_, ?_⟩
  -- Deposits, redeems and fees cancel out: the surplus is moved by yields alone.
  · have hsurplus := surplus_postAll t .empty rs
    unfold surplus at hsurplus hzero
    omega
  · intro a
    rw [get_balances_postAll, (hnone a).1]
    omega
  · intro a
    rw [get_deposited_postAll, (hnone a).2.1]
    omega
  · intro a
    rw [get_paidOut_postAll, (hnone a).2.2]
    omega

namespace Vault

/-- The accounts of a vault are accounted for after any run: by commands that
    are accepted or refused, by yields and by losses. -/
theorem accounted_after {H : Type} [Handler H] {v : Vault H} (hnew : v.IsNew) {acts : List Act}
    (hacts : v.Lawful acts) : (v.after acts).ledger.Accounted (v.receipts acts) := by
  obtain ⟨hfair, hempty⟩ := hnew.spec
  have hdue := areDue_receipts hacts
  rw [hempty] at hdue
  rw [ledger_after, hempty]
  exact Ledger.accounted_postAll hfair hdue

/-- A run with a fee, a yield, a loss, a recipient, a redeem that is refused and a
    command for a capability. -/
def sampleRun : List Act :=
  [.command (.deposit 1000 none) "alice" 1000, .outside 101,
    .command (.deposit 500 (some "carol")) "bob" 500,
    .command (.redeem 7 none) "bob" 7,
    .command (.extension (.capability "keeper" (.variant Capability.Keeper.harvest []))) "bob" 0,
    .outside (-40), .command (.redeem 333 (some "dave")) "alice" 333]

/-- What the commands of the run return, and who gets it. -/
def sampleReceipts : List Receipt :=
  [.minted "alice" 1000 997, .moved 101, .minted "carol" 500 452, .nothing, .nothing,
    .moved (-40), .burned "alice" 333 "dave" 357]

theorem accounted_after_sampleRun : ∃ v : Vault KeeperList, v.IsNew ∧ v.Lawful sampleRun
    ∧ v.receipts sampleRun = sampleReceipts
    ∧ (v.after sampleRun).ledger.Accounted sampleReceipts := by
  obtain ⟨v, hnew, hlawful, hreceipts⟩ := exists_isNew_of_createSample
    (p := fun v => v.Lawful sampleRun ∧ v.receipts sampleRun = sampleReceipts)
    (by decide +kernel)
  have haccounted := accounted_after hnew hlawful
  rw [hreceipts] at haccounted
  exact ⟨v, hnew, hlawful, hreceipts, haccounted⟩

end Vault

end ShareVault
