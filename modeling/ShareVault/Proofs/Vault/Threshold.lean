import ShareVault.Proofs.Ledger.Monotone
import ShareVault.Proofs.Vault.Answered

/-! # The smallest deposit

    A vault refuses a deposit that would mint nothing. Which deposits these are is told
    by the preview, and as the preview never falls with the amount, it is told by a
    single number: the threshold, below which a deposit is not worth a share. The fee
    does not disturb this, although it rises by whole units.

    Main statements:
    - `refused_mintsNothing_iff`: when a deposit is refused for minting nothing;
    - `fee_exact_previews_rise`: the fee is a ceiling, both previews rise with the amount,
      and there is a threshold.
-/

namespace ShareVault

namespace Vault

variable {H : Type} [Handler H] {v : Vault H}

/-- The answer to a question about an amount is a number that does not fall when the
    amount rises. -/
def Rises (v : Vault H) (question : Int → Question) : Prop :=
  ∀ m n, 0 ≤ m → m ≤ n → ∃ p q, v.answer (question m) = .ok (.int p)
    ∧ v.answer (question n) = .ok (.int q) ∧ p ≤ q

theorem rises_previewDeposit (ht : v.terms.IsFair) (hA : 0 ≤ v.ledger.totalAssets)
    (hS : 0 ≤ v.ledger.totalSupply) : v.Rises .previewDeposit := by
  intro m n _ hle
  exact ⟨_, _, answer_eq_ask .., answer_eq_ask .., Ledger.previewDeposit_mono ht hA hS hle⟩

theorem rises_previewRedeem (hA : 0 ≤ v.ledger.totalAssets) (hS : 0 ≤ v.ledger.totalSupply) :
    v.Rises .previewRedeem := by
  intro m n _ hle
  exact ⟨_, _, answer_eq_ask .., answer_eq_ask .., Ledger.assetsFor_mono hA hS hle⟩

theorem exists_limit_admits_iff (v : Vault H) (recipient : Text) (amount : Int) :
    (∃ limit, v.answer (.maxDeposit recipient) = .ok limit ∧ limit.Admits amount)
      ↔ (limitValue (v.ledger.maxDeposit v.terms recipient)).Admits amount := by
  rw [answer_eq_ask]
  show (∃ limit, Except.ok (limitValue _) = Except.ok limit ∧ limit.Admits amount) ↔ _
  simp only [Except.ok.injEq, exists_eq_left']

/-- A deposit is refused for minting nothing exactly if there is no reason before that,
    and the preview is zero. -/
theorem refused_mintsNothing_iff (v : Vault H) (sender : Text) {amount : Int}
    (hamount : 0 ≤ amount) (funds : Int) (recipient : Option Text) :
    (v.execute (Command.deposit amount recipient).toMessage sender funds).1
        = .error (.refused (.mintsNothing amount)) ↔
      0 < amount ∧ funds = amount
        ∧ (limitValue (v.ledger.maxDeposit v.terms (receiver sender recipient))).Admits amount
        ∧ v.ledger.previewDeposit v.terms amount = 0 := by
  have hanswered := depositAnswered v sender hamount funds recipient
  generalize v.execute (Command.deposit amount recipient).toMessage sender funds = done
    at hanswered ⊢
  constructor
  · intro hrefused
    obtain ⟨-, r, hr, hreason⟩ := hanswered.refused _ hrefused
    obtain rfl : Refusal.mintsNothing amount = r := VaultFault.refused.inj hr
    cases hreason with
    | dust hpos hfunds hlimit hdust => exact ⟨hpos, hfunds, hlimit, hdust⟩
  · intro h
    obtain ⟨hpos, hfunds, hlimit, hdust⟩ := h
    cases hdone : done.1 with
    | ok x =>
      obtain ⟨-, -, -, hminted⟩ := hanswered.accepted_iff.mp ⟨x, hdone⟩
      exact absurd hdust hminted
    | error f =>
      -- The other reasons come first, but none of them holds.
      obtain ⟨-, r, rfl, hreason⟩ := hanswered.refused f hdone
      cases hreason with
      | zero hzero => omega
      | funds _ hne _ => exact absurd hfunds hne
      | unstated _ hne _ => exact absurd hfunds hne
      | limit _ _ hbound hover =>
        rw [hbound] at hlimit
        exact absurd hlimit (Int.not_le.mpr hover)
      | dust => rfl

/-- The fee of a deposit is the least number of units that is not below the exact fee, and
    part of the deposit. What is left of two amounts at once is what is left of each, or
    one unit more. In every state with totals that are not negative both previews rise with
    the amount, and there is a threshold: of the deposits with matching funds and
    within the limit, those below it are refused for minting nothing, and no others are. -/
theorem fee_exact_previews_rise (ht : v.terms.IsFair) :
    (∀ a, 0 ≤ a →
      IsLeast {f | a * v.terms.feeBps ≤ Terms.bpsWhole * f} (v.terms.fee a)
        ∧ 0 ≤ v.terms.fee a ∧ v.terms.fee a ≤ a)
    ∧ (∀ a c, 0 ≤ a → 0 ≤ c →
      v.terms.net a + v.terms.net c ≤ v.terms.net (a + c)
        ∧ v.terms.net (a + c) ≤ v.terms.net a + v.terms.net c + 1)
    ∧ (0 ≤ v.ledger.totalAssets → 0 ≤ v.ledger.totalSupply →
      v.Rises .previewDeposit ∧ v.Rises .previewRedeem
        ∧ ∃ threshold : Int, ∀ sender amount funds recipient, 0 ≤ amount →
          ((v.execute (Command.deposit amount recipient).toMessage sender funds).1
              = .error (.refused (.mintsNothing amount)) ↔
            (0 < amount ∧ amount < threshold) ∧ funds = amount
              ∧ ∃ limit, v.answer (.maxDeposit (receiver sender recipient)) = .ok limit
                ∧ limit.Admits amount)) := by
  refine ⟨?_, ?_, ?_⟩
  · intro a ha
    exact ⟨v.terms.isLeast_fee a, Terms.fee_nonneg ht ha, Terms.fee_le ht ha⟩
  · intro a c _ _
    exact ⟨v.terms.net_add_le a c, v.terms.net_add_le_succ a c⟩
  · intro hA hS
    refine ⟨rises_previewDeposit ht hA hS, rises_previewRedeem hA hS, ?_⟩
    obtain ⟨threshold, hthreshold⟩ := Ledger.exists_threshold ht hA hS
    refine ⟨threshold, ?_⟩
    intro sender amount funds recipient hamount
    rw [refused_mintsNothing_iff v sender hamount, hthreshold amount hamount,
      exists_limit_admits_iff]
    tauto

/-- After the yield the threshold is 8: a deposit of 7 is refused, so every smaller one is,
    and one of 8 is not. -/
theorem fee_exact_previews_rise_dearRun : ∃ v : Vault KeeperList, v.Reachable
    ∧ v.terms.IsFair ∧ 0 ≤ v.ledger.totalAssets ∧ 0 ≤ v.ledger.totalSupply
    ∧ (v.execute (Command.deposit 7 none).toMessage "bob" 7).1
      = .error (.refused (.mintsNothing 7))
    ∧ (v.execute (Command.deposit 3 none).toMessage "bob" 3).1
      = .error (.refused (.mintsNothing 3))
    ∧ (v.execute (Command.deposit 8 none).toMessage "bob" 8).1
      ≠ .error (.refused (.mintsNothing 8))
    ∧ v.terms.fee 3 = 1 ∧ v.terms.net 3 + v.terms.net 4 ≤ v.terms.net 7 := by
  obtain ⟨start, hnew, hpast, hfair, hA, hS, hlimit, hfee, hseven, height⟩ :=
    exists_isNew_of_createSample
      (p := fun v => v.Lawful dearRun ∧ (0 ≤ (v.after dearRun).terms.feeBps
          ∧ (v.after dearRun).terms.feeBps < Terms.bpsWhole)
        ∧ 0 ≤ (v.after dearRun).ledger.totalAssets
        ∧ 0 ≤ (v.after dearRun).ledger.totalSupply
        ∧ (v.after dearRun).ledger.maxDeposit (v.after dearRun).terms "bob" = none
        ∧ (v.after dearRun).terms.fee 3 = 1
        ∧ (v.after dearRun).ledger.previewDeposit (v.after dearRun).terms 7 = 0
        ∧ (v.after dearRun).ledger.previewDeposit (v.after dearRun).terms 8 ≠ 0)
      (by decide +kernel)
  obtain ⟨-, hparts, hstate⟩ := fee_exact_previews_rise hfair
  obtain ⟨-, -, threshold, hthreshold⟩ := hstate hA hS
  have hadmits : ∀ n, (limitValue ((start.after dearRun).ledger.maxDeposit
      (start.after dearRun).terms (receiver "bob" none))).Admits n := by
    intro n
    rw [show receiver "bob" none = "bob" from rfl, hlimit]
    trivial
  have hseven' : ((start.after dearRun).execute (Command.deposit 7 none).toMessage "bob" 7).1
      = .error (.refused (.mintsNothing 7)) := by
    rw [refused_mintsNothing_iff _ _ (by decide)]
    exact ⟨by decide, rfl, hadmits 7, hseven⟩
  obtain ⟨⟨-, hbelow⟩, -⟩ := (hthreshold "bob" 7 7 none (by decide)).mp hseven'
  refine ⟨_, (Reachable.of_isNew hnew).after hpast, hfair, hA, hS, hseven', ?_, ?_, hfee,
    (hparts 3 4 (by decide) (by decide)).1⟩
  · rw [hthreshold "bob" 3 3 none (by decide), exists_limit_admits_iff]
    exact ⟨⟨by decide, by omega⟩, rfl, hadmits 3⟩
  · intro hrefused
    rw [refused_mintsNothing_iff _ _ (by decide)] at hrefused
    exact height hrefused.2.2.2

end Vault

end ShareVault
