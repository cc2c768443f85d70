import ShareVault.Proofs.Ledger.Price
import ShareVault.Proofs.Vault.Run

/-! # Trading takes nothing out

    A group of addresses that hold no shares deposits and redeems in any order,
    and in the end they hold none again. Whatever prices they made for each other
    on the way, they were paid no more than what they deposited less the fees.

    Main statement: `trading_gains_nothing`, for every group and every run.
-/

namespace ShareVault

/-- The act is a deposit or a redeem by which only addresses of a group get shares
    or give them up. -/
def Act.TradesWithin (G : Text → Prop) : Act → Prop
  | .command (.deposit amount recipient) sender _ =>
    0 ≤ amount ∧ G sender ∧ G (Vault.receiver sender recipient)
  | .command (.redeem amount _) sender _ => 0 ≤ amount ∧ G sender
  | .command (.extension _) _ _ => False
  | .outside _ => False

instance Act.decidableTradesWithin {G : Text → Prop} [DecidablePred G] :
    (a : Act) → Decidable (a.TradesWithin G)
  | .command (.deposit amount recipient) sender _ =>
    inferInstanceAs (Decidable (0 ≤ amount ∧ G sender ∧ G (Vault.receiver sender recipient)))
  | .command (.redeem amount _) sender _ => inferInstanceAs (Decidable (0 ≤ amount ∧ G sender))
  | .command (.extension _) _ _ => inferInstanceAs (Decidable False)
  | .outside _ => inferInstanceAs (Decidable False)

namespace Vault

open Receipt

variable {H : Type} [Handler H] {G : Text → Prop}

theorem isWithin_receipt (v : Vault H) {a : Act} (ha : a.TradesWithin G) :
    (v.receipt a).IsWithin G := by
  cases a with
  | outside change => exact absurd ha id
  | command c sender funds =>
    simp only [receipt, Command.receipt]
    split
    · exact ha.2.2
    · exact ha.2
    · trivial

theorem isWithin_of_mem_receipts {v : Vault H} {acts : List Act}
    (hacts : ∀ a ∈ acts, a.TradesWithin G) : ∀ r ∈ v.receipts acts, r.IsWithin G := by
  induction acts generalizing v with
  | nil =>
    intro r hr
    cases hr
  | cons a acts ih =>
    intro r hr
    rcases List.mem_cons.mp hr with rfl | hlater
    · exact isWithin_receipt v (hacts a (List.mem_cons_self ..))
    · exact ih (fun b hb => hacts b (List.mem_cons_of_mem a hb)) r hlater

omit [Handler H] in
theorem allows_of_tradesWithin (v : Vault H) {a : Act} (ha : a.TradesWithin G) :
    v.Allows a := by
  cases a with
  | outside change => exact absurd ha id
  | command c sender funds =>
    cases c with
    | deposit amount recipient => exact ha.1
    | redeem amount recipient => exact ha.1
    | extension payload => trivial

theorem lawful_of_tradesWithin (v : Vault H) {acts : List Act}
    (hacts : ∀ a ∈ acts, a.TradesWithin G) : v.Lawful acts := by
  induction acts generalizing v with
  | nil => trivial
  | cons a acts ih =>
    exact ⟨allows_of_tradesWithin v (hacts a (List.mem_cons_self ..)),
      ih (v.act a) fun b hb => hacts b (List.mem_cons_of_mem a hb)⟩

/-- A group without shares that trades and has none again was paid at most what it
    deposited less the fees, and the assets are not less than before. The vault
    must not start with assets that nobody has shares of. -/
theorem trading_gains_nothing {v : Vault H} (hv : v.Reachable)
    (howned : 0 < v.ledger.totalSupply ∨ v.ledger.totalAssets = 0) {acts : List Act}
    (hacts : ∀ a ∈ acts, a.TradesWithin G)
    (hbefore : ∀ a, G a → v.ledger.balances.get a = 0)
    (hafter : ∀ a, G a → (v.after acts).ledger.balances.get a = 0) :
    sum paid (v.receipts acts)
        ≤ sum gross (v.receipts acts)
          - ((v.after acts).ledger.feesCollected - v.ledger.feesCollected)
      ∧ v.ledger.totalAssets ≤ (v.after acts).ledger.totalAssets := by
  have hdue := areDue_receipts (lawful_of_tradesWithin v hacts)
  have hwithin : ∀ r ∈ v.receipts acts, r.IsWithin G := isWithin_of_mem_receipts hacts
  have hassets : v.ledger.totalAssets ≤ (v.after acts).ledger.totalAssets := by
    rw [ledger_after] at hafter ⊢
    exact Ledger.totalAssets_le_postAll hv.sound howned hv.isFair hdue hwithin hbefore hafter
  refine ⟨?_, hassets⟩
  -- Nothing came from outside, so the assets changed by the trades alone.
  have hflow := Ledger.totalAssets_postAll v.terms v.ledger (v.receipts acts)
  have hfees := Ledger.feesCollected_postAll v.terms v.ledger (v.receipts acts)
  have hyield : sum yielded (v.receipts acts) = 0 := by
    apply sum_eq_zero
    intro r hr
    exact (hwithin r hr).yielded_eq_zero
  rw [← ledger_after] at hflow hfees
  omega

/-- The group of the sample. -/
def IsTrader (a : Text) : Prop := a = "bob" ∨ a = "carol"

instance : DecidablePred IsTrader :=
  fun a => inferInstanceAs (Decidable (a = "bob" ∨ a = "carol"))

/-- What a depositor and a yield leave for the group to trade against. -/
def yieldRun : List Act := [.command (.deposit 1000 none) "alice" 1000, .outside 101]

/-- Two addresses deposit, one of them for the other, and redeem bit by bit. -/
def tradingRun : List Act :=
  [.command (.deposit 500 (some "carol")) "bob" 500, .command (.deposit 77 none) "bob" 77,
    .command (.redeem 200 (some "bob")) "carol" 200, .command (.redeem 69 none) "bob" 69,
    .command (.redeem 252 none) "carol" 252]

theorem trading_gains_nothing_tradingRun : ∃ v : Vault KeeperList, v.Reachable
    ∧ 0 < v.ledger.totalSupply
    ∧ (∀ a ∈ tradingRun, a.TradesWithin IsTrader)
    ∧ (∀ a, IsTrader a → v.ledger.balances.get a = 0)
    ∧ (∀ a, IsTrader a → (v.after tradingRun).ledger.balances.get a = 0)
    ∧ sum gross (v.receipts tradingRun) = 577
    ∧ sum paid (v.receipts tradingRun)
      ≤ 577 - ((v.after tradingRun).ledger.feesCollected - v.ledger.feesCollected) := by
  obtain ⟨start, hnew, hpast, hS, ⟨hbob, hcarol⟩, ⟨hbob', hcarol'⟩, hgross⟩ :=
    exists_isNew_of_createSample
      (p := fun v => v.Lawful yieldRun
        ∧ 0 < (v.after yieldRun).ledger.totalSupply
        ∧ ((v.after yieldRun).ledger.balances.get "bob" = 0
          ∧ (v.after yieldRun).ledger.balances.get "carol" = 0)
        ∧ (((v.after yieldRun).after tradingRun).ledger.balances.get "bob" = 0
          ∧ ((v.after yieldRun).after tradingRun).ledger.balances.get "carol" = 0)
        ∧ sum gross ((v.after yieldRun).receipts tradingRun) = 577)
      (by decide +kernel)
  have hreach : (start.after yieldRun).Reachable := (Reachable.of_isNew hnew).after hpast
  have htrades : ∀ a ∈ tradingRun, a.TradesWithin IsTrader := by
    decide
  have hbefore : ∀ a, IsTrader a →
      (start.after yieldRun).ledger.balances.get a = 0 := by
    rintro a (rfl | rfl)
    · exact hbob
    · exact hcarol
  have hafter : ∀ a, IsTrader a →
      ((start.after yieldRun).after tradingRun).ledger.balances.get a = 0 := by
    rintro a (rfl | rfl)
    · exact hbob'
    · exact hcarol'
  have hgain := (trading_gains_nothing hreach (Or.inl hS) htrades hbefore hafter).1
  rw [hgross] at hgain
  exact ⟨_, hreach, hS, htrades, hbefore, hafter, hgross, hgain⟩

end Vault

end ShareVault
