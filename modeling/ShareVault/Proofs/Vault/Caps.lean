import ShareVault.Proofs.Ledger.Caps
import ShareVault.Proofs.Vault.Answered

/-! # Vaults with caps

    The two caps of a vault hold over its whole life, however deposits are split over
    calls, senders and recipients. And they are tight: the limit that is answered is
    the most that can be deposited, one unit more is refused, and everything up to it
    that is worth a share is accepted.

    Main statements:
    - `deposit_eq_limitExceeded`, `deposit_isOk`: a limit decides about deposits;
    - `deposits_within_caps`: the caps in every state of a run.
-/

namespace ShareVault

namespace Vault

variable {H : Type} [Handler H] {v : Vault H}

/-! ## One deposit -/

theorem maxDeposit_of_answer {r : Text} {limit : Int}
    (h : v.answer (.maxDeposit r) = .ok (.int limit)) :
    v.ledger.maxDeposit v.terms r = some limit := by
  rw [answer_eq_ask] at h
  simp only [ask, Except.ok.injEq] at h
  cases hmax : v.ledger.maxDeposit v.terms r with
  | none =>
    rw [hmax] at h
    cases h
  | some bound =>
    rw [hmax] at h
    cases h
    rfl

/-- A deposit that is accepted leaves the receipt of a deposit, and that is due. -/
theorem isDue_of_deposit {sender : Text} {amount funds : Int} {recipient : Option Text}
    (hamount : 0 ≤ amount) {x : Value}
    (hx : (v.execute (Command.deposit amount recipient).toMessage sender funds).1 = .ok x) :
    ∃ shares, v.ledger.IsDue v.terms (.minted (receiver sender recipient) amount shares)
      ∧ (v.execute (Command.deposit amount recipient).toMessage sender funds).2.ledger
        = v.ledger.post v.terms (.minted (receiver sender recipient) amount shares) := by
  have hanswered := depositAnswered v sender hamount funds recipient
  have hshares := hanswered.returned x hx
  subst hshares
  -- The act of sending the command has this receipt.
  have hreceipt : v.receipt (.command (.deposit amount recipient) sender funds)
      = .minted (receiver sender recipient) amount (v.ledger.previewDeposit v.terms amount) := by
    simp only [receipt, hx]
    rfl
  have hallowed : v.Allows (.command (.deposit amount recipient) sender funds) := hamount
  refine ⟨v.ledger.previewDeposit v.terms amount, ?_, ?_⟩
  · rw [← hreceipt]
    exact isDue_receipt hallowed
  · rw [← hreceipt]
    exact ledger_act v (.command (.deposit amount recipient) sender funds)

/-- More than the limit is refused, and nothing has happened. -/
theorem deposit_eq_limitExceeded {sender : Text} {recipient : Option Text} {limit : Int}
    (h : v.answer (.maxDeposit (receiver sender recipient)) = .ok (.int limit)) {amount : Int}
    (hover : limit < amount) :
    v.execute (Command.deposit amount recipient).toMessage sender amount
      = (.error (.refused (.limitExceeded amount limit)), v) := by
  have hmax := maxDeposit_of_answer h
  have hlimit := Ledger.maxDeposit_nonneg hmax
  have hanswered := depositAnswered v sender (by omega : 0 ≤ amount) amount recipient
  rw [hmax] at hanswered
  have hnot : ¬ (limitValue (some limit)).Admits amount := Int.not_le.mpr hover
  rcases hdone : v.execute (Command.deposit amount recipient).toMessage sender amount with
    ⟨outcome, w⟩
  rw [hdone] at hanswered
  cases outcome with
  | ok x =>
    obtain ⟨-, -, hadmits, -⟩ := hanswered.accepted_iff.mp ⟨x, rfl⟩
    exact absurd hadmits hnot
  | error f =>
    obtain ⟨hsame, r, hf, hr⟩ := hanswered.refused f rfl
    have hw : w = v := hsame
    subst hw hf
    -- Of the reasons to refuse only the limit is left.
    cases hr with
    | zero hzero => omega
    | funds _ hfunds _ => exact absurd rfl hfunds
    | unstated _ hfunds _ => exact absurd rfl hfunds
    | limit _ _ hbound _ =>
      cases hbound
      rfl
    | dust _ _ hadmits _ => exact absurd hadmits hnot

/-- Whatever is within the limit and worth a share is accepted. -/
theorem deposit_isOk {sender : Text} {recipient : Option Text} {limit : Int}
    (h : v.answer (.maxDeposit (receiver sender recipient)) = .ok (.int limit)) {amount : Int}
    (hamount : 0 < amount) (hwithin : amount ≤ limit) {preview : Int}
    (hpreview : v.answer (.previewDeposit amount) = .ok (.int preview)) (hshare : preview ≠ 0) :
    ∃ x, (v.execute (Command.deposit amount recipient).toMessage sender amount).1 = .ok x := by
  have hanswered := depositAnswered v sender (Int.le_of_lt hamount) amount recipient
  rw [maxDeposit_of_answer h] at hanswered
  rw [answer_eq_ask] at hpreview
  cases hpreview
  exact hanswered.accepted_iff.mpr ⟨hamount, rfl, hwithin, hshare⟩

/-! ## A run -/

/-- In every state of a run, nobody was credited with more than the cap of each; a
    deposit that is accepted then finds deposits enabled, and leaves the assets within
    their cap; and a limit that is answered then is the most that can be deposited. -/
theorem deposits_within_caps {start : Vault H} (hnew : start.IsNew) {acts : List Act}
    (hacts : start.Lawful acts) {v : Vault H} (hv : v ∈ start.states acts) :
    (∀ cap, start.terms.userDepositCap = some cap → ∀ a, v.ledger.deposited.get a ≤ max cap 0)
      ∧ ∀ (sender : Text) (recipient : Option Text),
        (∀ amount, 0 ≤ amount → ∀ funds x w,
          v.execute (Command.deposit amount recipient).toMessage sender funds = (.ok x, w) →
            start.terms.depositsEnabled = true
              ∧ ∀ cap, start.terms.depositCap = some cap → w.ledger.totalAssets ≤ cap)
        ∧ ∀ limit, v.answer (.maxDeposit (receiver sender recipient)) = .ok (.int limit) →
          (∀ amount, limit < amount →
            v.execute (Command.deposit amount recipient).toMessage sender amount
              = (.error (.refused (.limitExceeded amount limit)), v))
          ∧ ∀ amount preview, 0 < amount → amount ≤ limit →
            v.answer (.previewDeposit amount) = .ok (.int preview) → preview ≠ 0 →
              ∃ x, (v.execute (Command.deposit amount recipient).toMessage sender amount).1
                = .ok x := by
  obtain ⟨past, hpast, rfl⟩ := exists_after_of_mem_states hacts hv
  obtain ⟨hfair, hempty⟩ := hnew.spec
  have hterms : (start.after past).terms = start.terms := terms_after start past
  refine ⟨?_, ?_⟩
  · intro cap hcap a
    have hdue := areDue_receipts hpast
    rw [ledger_after]
    refine Ledger.deposited_postAll_le hcap (Int.le_max_left cap 0) ?_ hdue
    -- Before the run nobody was credited with anything.
    rw [hempty]
    exact Int.le_max_right cap 0
  · intro sender recipient
    refine ⟨?_, ?_⟩
    · intro amount hamount funds x w hdone
      have hx : ((start.after past).execute (Command.deposit amount recipient).toMessage sender
          funds).1 = .ok x := congrArg Prod.fst hdone
      obtain ⟨shares, hdue, hledger⟩ := isDue_of_deposit hamount hx
      have hw : w.ledger = _ := (congrArg (fun done => done.2.ledger) hdone).symm.trans hledger
      rw [hterms] at hdue
      rw [hterms] at hw
      obtain ⟨henabled, -, -⟩ := (Ledger.not_exceeds_maxDeposit_iff hdue.1).mp hdue.2.1
      refine ⟨henabled, ?_⟩
      intro cap hcap
      rw [hw]
      exact Ledger.totalAssets_minted_le hfair hcap hdue
    · intro limit hlimit
      refine ⟨?_, ?_⟩
      · intro amount hover
        exact deposit_eq_limitExceeded hlimit hover
      · intro amount preview hamount hwithin hpreview hshare
        exact deposit_isOk hlimit hamount hwithin hpreview hshare

/-- Two deposits for one recipient, by himself and by somebody else, with a yield
    between them and a redeem after them. -/
def cappedRun : List Act :=
  [.command (.deposit 400 none) "alice" 400,
    .outside 100,
    .command (.deposit 100 (some "alice")) "bob" 100,
    .command (.redeem 300 none) "alice" 300]

/-- With caps of 1000 and 600, 100 more are accepted for the recipient then, and 101
    are refused. -/
theorem deposits_within_caps_cappedRun : ∃ start : Vault KeeperList, start.IsNew
    ∧ start.Lawful cappedRun
    ∧ (start.after cappedRun).ledger.deposited.get "alice" = 500
    ∧ (start.after cappedRun).answer (.maxDeposit "alice") = .ok (.int 100)
    ∧ (start.after cappedRun).execute (Command.deposit 101 (some "alice")).toMessage "carol" 101
      = (.error (.refused (.limitExceeded 101 100)), start.after cappedRun)
    ∧ ∃ x, ((start.after cappedRun).execute (Command.deposit 100 (some "alice")).toMessage
        "carol" 100).1 = .ok x := by
  obtain ⟨start, hnew, hacts, hcredit, hmax, hquote⟩ := exists_isNew_of_create Registry.standard
    (.native "uosmo") (.synthetic "osmo1vault") ⟨30, some 1000, some 600, true⟩ (.int 1)
    [("keeper", KeeperList.empty)]
    (p := fun v => v.Lawful cappedRun
      ∧ (v.after cappedRun).ledger.deposited.get "alice" = 500
      ∧ (v.after cappedRun).ledger.maxDeposit (v.after cappedRun).terms "alice" = some 100
      ∧ (v.after cappedRun).ledger.previewDeposit (v.after cappedRun).terms 100 ≠ 0)
    (by decide +kernel)
  have hlimit : (start.after cappedRun).answer (.maxDeposit "alice") = .ok (.int 100) := by
    rw [answer_eq_ask]
    simp only [ask, hmax, limitValue]
  have hpreview := answer_eq_ask (start.after cappedRun) (.previewDeposit 100)
  obtain ⟨-, hdeposits⟩ := deposits_within_caps hnew hacts (after_mem_states start cappedRun)
  obtain ⟨-, htight⟩ := hdeposits "carol" (some "alice")
  obtain ⟨hrefused, haccepted⟩ := htight 100 hlimit
  exact ⟨start, hnew, hacts, hcredit, hlimit, hrefused 101 (by decide),
    haccepted 100 _ (by decide) (Int.le_refl 100) hpreview hquote⟩

end Vault

end ShareVault
