import ShareVault.Proofs.Json.Scalar
import ShareVault.Proofs.Vault.Redemption

/-! # The answers decide

    Before somebody deposits or redeems, the vault can be asked for the limit and
    for the preview. The answers decide: the command is accepted exactly if it is
    not zero, matches the funds, is within the limit that was answered and, for a
    deposit, has a preview that is not zero. It then returns the preview, and the
    answers to the same questions afterwards differ by what the preview said. A
    command that is refused changes nothing and has the first of these reasons.

    A refusal states its reason, with one exception. Funds that are not the amount are
    written into the message, and there are numbers too long to be written: then the
    message fails, and with it the report of the reason.

    Main statements:
    - `answered_settle`: what it takes for an action on the ledger to go as answered;
    - `execute_as_answered`: deposits and redeems do, for every vault and sender;
    - `execute_longFunds`: funds that no refusal can state.
-/

namespace ShareVault

/-- Whether an amount is within a limit as it is answered; null is no limit. -/
def Value.Admits : Value → Int → Prop
  | .null, _ => True
  | .int limit, amount => amount ≤ limit
  | _, _ => False

/-! ## Reasons to refuse -/

/-- A number can be stated in a message: its numeral has no more digits than are
    converted. -/
def IsStatable (n : Int) : Prop := (Text.decimal n.natAbs).length ≤ Json.maxDigits

/-- Funds that are not the amount are stated in the refusal, or they cannot be. -/
theorem Refusal.ofFunds_cases (refusal : Int → Int → Refusal) (amount funds : Int) :
    (IsStatable amount ∧ IsStatable funds) ∧ ofFunds refusal amount funds = refusal amount funds
      ∨ ¬ (IsStatable amount ∧ IsStatable funds)
        ∧ ofFunds refusal amount funds = .numeralTooLong := by
  unfold IsStatable ofFunds
  rw [← Json.isConvertible_iff, ← Json.isConvertible_iff, ← Bool.and_eq_true]
  by_cases h : (Json.isConvertible amount && Json.isConvertible funds) = true
  · exact .inl ⟨h, if_pos h⟩
  · exact .inr ⟨h, if_neg h⟩

/-- Why a deposit is refused, by what is answered about it. Of several reasons the
    first one counts. -/
inductive DepositRefused (amount funds : Int) (limit : Value) (preview : Int) : Refusal → Prop where
  | zero (hzero : amount = 0) : DepositRefused amount funds limit preview .zeroDeposit
  | funds (hpos : 0 < amount) (hfunds : funds ≠ amount)
    (hstatable : IsStatable amount ∧ IsStatable funds) :
    DepositRefused amount funds limit preview (.depositFunds amount funds)
  /-- The funds are not the amount, and the message cannot be made. -/
  | unstated (hpos : 0 < amount) (hfunds : funds ≠ amount)
    (hlong : ¬ (IsStatable amount ∧ IsStatable funds)) :
    DepositRefused amount funds limit preview .numeralTooLong
  | limit {bound : Int} (hpos : 0 < amount) (hfunds : funds = amount) (hlimit : limit = .int bound)
      (hover : bound < amount) :
    DepositRefused amount funds limit preview (.limitExceeded amount bound)
  | dust (hpos : 0 < amount) (hfunds : funds = amount) (hlimit : limit.Admits amount)
      (hdust : preview = 0) : DepositRefused amount funds limit preview (.mintsNothing amount)

/-- Why a redeem is refused, by what is answered about it. -/
inductive RedeemRefused (amount funds limit : Int) : Refusal → Prop where
  | zero (hzero : amount = 0) : RedeemRefused amount funds limit .zeroRedeem
  | funds (hpos : 0 < amount) (hfunds : funds ≠ amount)
    (hstatable : IsStatable amount ∧ IsStatable funds) :
    RedeemRefused amount funds limit (.redeemFunds amount funds)
  /-- The funds are not the amount, and the message cannot be made. -/
  | unstated (hpos : 0 < amount) (hfunds : funds ≠ amount)
    (hlong : ¬ (IsStatable amount ∧ IsStatable funds)) :
    RedeemRefused amount funds limit .numeralTooLong
  | limit (hpos : 0 < amount) (hfunds : funds = amount) (hover : limit < amount) :
    RedeemRefused amount funds limit (.limitExceeded amount limit)

/-- A reason to refuse a deposit is none to accept it. -/
theorem DepositRefused.not_accepted {amount funds preview : Int} {limit : Value} {r : Refusal}
    (h : DepositRefused amount funds limit preview r) :
    ¬ (0 < amount ∧ funds = amount ∧ limit.Admits amount ∧ preview ≠ 0) := by
  rintro ⟨hpos, hfunds, hlimit, hpreview⟩
  cases h with
  | zero hzero => omega
  | funds _ hne _ => exact hne hfunds
  | unstated _ hne _ => exact hne hfunds
  | limit _ _ hbound hover =>
    subst hbound
    exact absurd hlimit (Int.not_le.mpr hover)
  | dust _ _ _ hdust => exact hpreview hdust

theorem RedeemRefused.not_accepted {amount funds limit : Int} {r : Refusal}
    (h : RedeemRefused amount funds limit r) :
    ¬ (0 < amount ∧ funds = amount ∧ amount ≤ limit) := by
  rintro ⟨hpos, hfunds, hlimit⟩
  cases h with
  | zero hzero => omega
  | funds _ hne _ => exact hne hfunds
  | unstated _ hne _ => exact hne hfunds
  | limit _ _ hover => omega

/-- Amounts can be stated. -/
theorem isStatable_of_lt {amount : Int} (hamount : 0 ≤ amount) (h : amount < twoTo 128) :
    IsStatable amount := by
  have hshort : (Text.decimal amount.natAbs).length ≤ 128 + 1 :=
    Text.length_decimal_le (by omega)
  exact hshort.trans (by decide)

/-- A refusal of an amount that states no reason has one: the funds cannot be stated. -/
theorem DepositRefused.eq_numeralTooLong_iff {amount funds preview : Int} {limit : Value}
    {r : Refusal} (hamount : IsStatable amount) (h : DepositRefused amount funds limit preview r) :
    r = .numeralTooLong ↔ 0 < amount ∧ ¬ IsStatable funds := by
  cases h with
  | zero hzero => simp [hzero]
  | funds _ _ hstatable => simp [hstatable.2]
  | unstated hpos _ hlong =>
    have hfunds : ¬ IsStatable funds := fun hstatable => hlong ⟨hamount, hstatable⟩
    simp [hpos, hfunds]
  | limit _ hfunds _ _ => simp [hfunds, hamount]
  | dust _ hfunds _ _ => simp [hfunds, hamount]

theorem RedeemRefused.eq_numeralTooLong_iff {amount funds limit : Int} {r : Refusal}
    (hamount : IsStatable amount) (h : RedeemRefused amount funds limit r) :
    r = .numeralTooLong ↔ 0 < amount ∧ ¬ IsStatable funds := by
  cases h with
  | zero hzero => simp [hzero]
  | funds _ _ hstatable => simp [hstatable.2]
  | unstated hpos _ hlong =>
    have hfunds : ¬ IsStatable funds := fun hstatable => hlong ⟨hamount, hstatable⟩
    simp [hpos, hfunds]
  | limit _ hfunds _ => simp [hfunds, hamount]

/-! ## Actions on the ledger -/

namespace Ledger

/-- The limit of a vault admits what does not exceed it. -/
theorem admits_limitValue {amount : Int} {limit : Option Int} :
    (Vault.limitValue limit).Admits amount ↔ exceeds amount limit = false := by
  cases limit with
  | none => exact ⟨fun _ => rfl, fun _ => trivial⟩
  | some bound =>
    simp only [Vault.limitValue, Value.Admits, exceeds, decide_eq_false_iff_not, Int.not_lt]

/-- A deposit that is not accepted has a reason. -/
theorem depositRefused_of_error {t : Terms} {l : Ledger} {amount funds : Int} {recipient : Text}
    (hamount : 0 ≤ amount) {r : Refusal} (h : l.deposit t amount funds recipient = .error r) :
    DepositRefused amount funds (Vault.limitValue (l.maxDeposit t recipient))
      (l.previewDeposit t amount) r := by
  -- The checks in the order in which they run.
  unfold deposit at h
  split at h
  · next hzero =>
    cases h
    exact .zero hzero
  next hzero =>
  have hpos : 0 < amount := by omega
  split at h
  · next hfunds =>
    obtain rfl := Except.error.inj h
    rcases Refusal.ofFunds_cases .depositFunds amount funds with ⟨hstatable, heq⟩ | ⟨hlong, heq⟩
    · rw [heq]
      exact .funds hpos hfunds hstatable
    · rw [heq]
      exact .unstated hpos hfunds hlong
  next hfunds =>
  have hfunds : funds = amount := by omega
  have hdust : ∀ {limit : Value}, limit.Admits amount →
      deposit.mint t l amount recipient = .error r →
        DepositRefused amount funds limit (l.previewDeposit t amount) r := by
    intro limit hadmits hmint
    simp only [deposit.mint] at hmint
    split at hmint
    · next hnone =>
      cases hmint
      exact .dust hpos hfunds hadmits hnone
    · cases hmint
  split at h
  · next bound hbound =>
    rw [hbound]
    split at h
    · next hover =>
      cases h
      exact .limit hpos hfunds rfl hover
    · next hwithin => exact hdust (Int.not_lt.mp hwithin) h
  · next hnone =>
    rw [hnone]
    exact hdust trivial h

/-- A redeem that is not accepted has a reason. -/
theorem redeemRefused_of_error {l : Ledger} {amount funds : Int} {sender recipient : Text}
    (hamount : 0 ≤ amount) {r : Refusal} (h : l.redeem amount funds sender recipient = .error r) :
    RedeemRefused amount funds (l.maxRedeem sender) r := by
  unfold redeem at h
  split at h
  · next hzero =>
    cases h
    exact .zero hzero
  next hzero =>
  have hpos : 0 < amount := by omega
  split at h
  · next hfunds =>
    obtain rfl := Except.error.inj h
    rcases Refusal.ofFunds_cases .redeemFunds amount funds with ⟨hstatable, heq⟩ | ⟨hlong, heq⟩
    · rw [heq]
      exact .funds hpos hfunds hstatable
    · rw [heq]
      exact .unstated hpos hfunds hlong
  next hfunds =>
  have hfunds : funds = amount := by omega
  split at h
  · next hover =>
    cases h
    exact .limit hpos hfunds hover
  · cases h

end Ledger

/-! ## Commands and answers -/

namespace Vault

variable {H : Type} [Handler H]

/-- What a vault answers to a question. -/
def answer (v : Vault H) (q : Question) : Except VaultFault Value := (v.query q.toMessage).1

theorem answer_eq_ask (v : Vault H) (q : Question) : v.answer q = (v.ask q).1 := by
  unfold answer query
  rw [Question.ofMessage?_toMessage]

/-- The answer to a question is a number in both vaults, and differs by `change`. -/
def Shifts (v w : Vault H) (q : Question) (change : Int) : Prop :=
  ∃ n, v.answer q = .ok (.int n) ∧ w.answer q = .ok (.int (n + change))

theorem shifts_maxRedeem {v w : Vault H} {a : Text} {change : Int}
    (h : w.ledger.maxRedeem a = v.ledger.maxRedeem a + change) :
    v.Shifts w (.maxRedeem a) change := by
  refine ⟨v.ledger.maxRedeem a, answer_eq_ask .., ?_⟩
  rw [answer_eq_ask, ← h]
  rfl

theorem shifts_totalSupply {v w : Vault H} {change : Int}
    (h : w.ledger.totalSupply = v.ledger.totalSupply + change) :
    v.Shifts w .totalSupply change := by
  refine ⟨v.ledger.totalSupply, answer_eq_ask .., ?_⟩
  rw [answer_eq_ask, ← h]
  rfl

theorem shifts_totalAssets {v w : Vault H} {change : Int}
    (h : w.ledger.totalAssets = v.ledger.totalAssets + change) :
    v.Shifts w .totalAssets change := by
  refine ⟨v.ledger.totalAssets, answer_eq_ask .., ?_⟩
  rw [answer_eq_ask, ← h]
  rfl

theorem answer_maxRedeem_congr {v w : Vault H} {a : Text}
    (h : w.ledger.maxRedeem a = v.ledger.maxRedeem a) :
    w.answer (.maxRedeem a) = v.answer (.maxRedeem a) := by
  rw [answer_eq_ask, answer_eq_ask]
  simp only [ask, h]

/-- A command has gone as the answers before it said. It is accepted in exactly one
    case and returns a result; the shares of one address and all shares change by the
    same number, and the assets by another. If it is refused, then for a reason. -/
structure Answered (v : Vault H) (accepts : Prop) (reason : Refusal → Prop) (result : Int)
    (a : Text) (shares assets : Int) (done : Except VaultFault Value × Vault H) : Prop where
  accepted_iff : (∃ x, done.1 = .ok x) ↔ accepts
  returned : ∀ x, done.1 = .ok x → x = .int result
  shifted : ∀ x, done.1 = .ok x → v.Shifts done.2 (.maxRedeem a) shares
    ∧ v.Shifts done.2 .totalSupply shares ∧ v.Shifts done.2 .totalAssets assets
  others : ∀ x, done.1 = .ok x → ∀ b ≠ a,
    done.2.answer (.maxRedeem b) = v.answer (.maxRedeem b)
  refused : ∀ f, done.1 = .error f → done.2 = v ∧ ∃ r, f = .refused r ∧ reason r

/-- A deposit for a recipient has gone as the limit and the preview said. -/
def DepositAnswered (v : Vault H) (amount funds : Int) (recipient : Text) (limit : Value)
    (preview : Int) : Except VaultFault Value × Vault H → Prop :=
  v.Answered (0 < amount ∧ funds = amount ∧ limit.Admits amount ∧ preview ≠ 0)
    (DepositRefused amount funds limit preview) preview recipient preview
    (amount - v.terms.fee amount)

/-- A redeem of a holder has gone as the limit and the preview said. -/
def RedeemAnswered (v : Vault H) (amount funds : Int) (holder : Text) (limit preview : Int) :
    Except VaultFault Value × Vault H → Prop :=
  v.Answered (0 < amount ∧ funds = amount ∧ amount ≤ limit)
    (RedeemRefused amount funds limit) preview holder (-amount) (-preview)

/-- An action on the ledger has gone as answered if it gives the result and changes the
    ledger by the shares and the assets, or else is refused for a reason that leaves no
    room for accepting it. -/
theorem answered_settle {v : Vault H} {accepts : Prop} {reason : Refusal → Prop}
    {result : Int} {a : Text} {shares assets : Int} {outcome : Except Refusal (Int × Ledger)}
    (hok : ∀ p, outcome = .ok p → accepts ∧ p.1 = result
      ∧ p.2.balances = v.ledger.balances.add a shares
      ∧ p.2.totalSupply = v.ledger.totalSupply + shares
      ∧ p.2.totalAssets = v.ledger.totalAssets + assets)
    (herror : ∀ r, outcome = .error r → reason r) (hreason : ∀ r, reason r → ¬ accepts) :
    v.Answered accepts reason result a shares assets (v.settle outcome) := by
  cases outcome with
  | error r =>
    have hr := herror r rfl
    refine ⟨⟨?_, ?_⟩, ?_, ?_, ?_, ?_⟩
    · rintro ⟨x, hx⟩
      cases hx
    · intro haccepts
      exact absurd haccepts (hreason r hr)
    · intro x hx
      cases hx
    · intro x hx
      cases hx
    · intro x hx
      cases hx
    · intro f hf
      cases hf
      exact ⟨rfl, r, rfl, hr⟩
  | ok p =>
    obtain ⟨haccepts, hresult, hbalances, hsupply, hassets⟩ := hok p rfl
    refine ⟨⟨?_, ?_⟩, ?_, ?_, ?_, ?_⟩
    · intro _
      exact haccepts
    · intro _
      exact ⟨_, rfl⟩
    · intro x hx
      cases hx
      exact congrArg Value.int hresult
    · intro x _
      refine ⟨shifts_maxRedeem ?_, shifts_totalSupply hsupply, shifts_totalAssets hassets⟩
      show p.2.balances.get a = v.ledger.balances.get a + shares
      rw [hbalances, Accounts.get_add_self]
    · intro x _ b hb
      apply answer_maxRedeem_congr
      show p.2.balances.get b = v.ledger.balances.get b
      rw [hbalances, Accounts.get_add_ne hb]
    · intro f hf
      cases hf

theorem depositAnswered (v : Vault H) (sender : Text) {amount : Int} (hamount : 0 ≤ amount)
    (funds : Int) (recipient : Option Text) :
    v.DepositAnswered amount funds (receiver sender recipient)
      (limitValue (v.ledger.maxDeposit v.terms (receiver sender recipient)))
      (v.ledger.previewDeposit v.terms amount)
      (v.execute (Command.deposit amount recipient).toMessage sender funds) := by
  rw [execute_toMessage]
  refine answered_settle ?_ ?_ fun r => DepositRefused.not_accepted
  · intro p hp
    obtain ⟨hzero, hfunds, hlimit, hshares, rfl⟩ := Ledger.deposit_eq_ok_iff.mp hp
    refine ⟨⟨?_, hfunds, Ledger.admits_limitValue.mpr hlimit, hshares⟩, rfl, rfl, rfl, rfl⟩
    omega
  · intro r hr
    exact Ledger.depositRefused_of_error hamount hr

theorem redeemAnswered (v : Vault H) (sender : Text) {amount : Int} (hamount : 0 ≤ amount)
    (funds : Int) (recipient : Option Text) :
    v.RedeemAnswered amount funds sender (v.ledger.maxRedeem sender)
      (v.ledger.previewRedeem amount)
      (v.execute (Command.redeem amount recipient).toMessage sender funds) := by
  rw [execute_toMessage]
  refine answered_settle ?_ ?_ fun r => RedeemRefused.not_accepted
  · intro p hp
    obtain ⟨hzero, hfunds, hlimit, rfl⟩ := Ledger.redeem_eq_ok_iff.mp hp
    refine ⟨⟨?_, hfunds, hlimit⟩, rfl, rfl, rfl, rfl⟩
    omega
  · intro r hr
    exact Ledger.redeemRefused_of_error hamount hr

/-- A command is refused without a reason that is stated exactly if the funds cannot be
    stated: they are then not the amount that was sent with them. -/
theorem Answered.eq_numeralTooLong_iff {v : Vault H} {accepts : Prop} {reason : Refusal → Prop}
    {result : Int} {a : Text} {shares assets : Int} {done : Except VaultFault Value × Vault H}
    {amount funds : Int} (h : v.Answered accepts reason result a shares assets done)
    (hamount : IsStatable amount) (haccepts : accepts → funds = amount)
    (hreason : ∀ r, reason r → (r = .numeralTooLong ↔ 0 < amount ∧ ¬ IsStatable funds)) :
    done.1 = .error (.refused .numeralTooLong) ↔ 0 < amount ∧ ¬ IsStatable funds := by
  constructor
  · intro hdone
    obtain ⟨-, r, hr, hreasoned⟩ := h.refused _ hdone
    exact (hreason r hreasoned).mp (VaultFault.refused.inj hr).symm
  · intro hlong
    cases hdone : done.1 with
    | ok x =>
      have hfunds := haccepts (h.accepted_iff.mp ⟨x, hdone⟩)
      rw [hfunds] at hlong
      exact absurd hamount hlong.2
    | error f =>
      obtain ⟨-, r, rfl, hreasoned⟩ := h.refused f hdone
      rw [(hreason r hreasoned).mpr hlong]

/-- What a vault answers about limits and previews decides about the deposits and
    redeems that are sent to it then, whoever sends them and for whomever. Of the amounts
    that there are, none is refused without a stated reason, unless it comes with funds
    that are too long to be stated. -/
theorem execute_as_answered (v : Vault H) (sender : Text) {amount : Int} (hamount : 0 ≤ amount)
    (funds : Int) (recipient : Option Text) :
    (∃ limit preview,
        v.answer (.maxDeposit (receiver sender recipient)) = .ok limit
          ∧ v.answer (.previewDeposit amount) = .ok (.int preview)
          ∧ v.DepositAnswered amount funds (receiver sender recipient) limit preview
            (v.execute (Command.deposit amount recipient).toMessage sender funds))
      ∧ (∃ limit preview,
        v.answer (.maxRedeem sender) = .ok (.int limit)
          ∧ v.answer (.previewRedeem amount) = .ok (.int preview)
          ∧ v.RedeemAnswered amount funds sender limit preview
            (v.execute (Command.redeem amount recipient).toMessage sender funds))
      ∧ (amount < twoTo 128 →
        ∀ c ∈ [Command.deposit amount recipient, Command.redeem amount recipient],
          (v.execute c.toMessage sender funds).1 = .error (.refused .numeralTooLong)
            ↔ 0 < amount ∧ ¬ IsStatable funds) := by
  have hdeposit := depositAnswered v sender hamount funds recipient
  have hredeem := redeemAnswered v sender hamount funds recipient
  refine ⟨⟨_, _, answer_eq_ask .., answer_eq_ask .., hdeposit⟩,
    ⟨_, _, answer_eq_ask .., answer_eq_ask .., hredeem⟩, ?_⟩
  intro hshort c hc
  have hstatable := isStatable_of_lt hamount hshort
  simp only [List.mem_cons, List.not_mem_nil, or_false] at hc
  rcases hc with rfl | rfl
  · apply hdeposit.eq_numeralTooLong_iff hstatable (fun haccepts => haccepts.2.1)
    intro r hr
    exact hr.eq_numeralTooLong_iff hstatable
  · apply hredeem.eq_numeralTooLong_iff hstatable (fun haccepts => haccepts.2.1)
    intro r hr
    exact hr.eq_numeralTooLong_iff hstatable

/-- A deposit, and a yield that makes a share dear. -/
def dearRun : List Act := [.command (.deposit 1000 none) "alice" 1000, .outside 5000]

/-- A deposit of 5 is worth no share then, and a redeem of 5 shares pays 30. -/
theorem execute_as_answered_dearRun : ∃ v : Vault KeeperList, v.Reachable
    ∧ v.answer (.maxDeposit "alice") = .ok .null
    ∧ v.answer (.previewDeposit 5) = .ok (.int 0)
    ∧ (v.execute (Command.deposit 5 none).toMessage "alice" 5).1
      = .error (.refused (.mintsNothing 5))
    ∧ v.answer (.maxRedeem "alice") = .ok (.int 997)
    ∧ v.answer (.previewRedeem 5) = .ok (.int 30)
    ∧ (v.execute (Command.redeem 5 none).toMessage "alice" 5).1 = .ok (.int 30)
    ∧ v.Shifts (v.execute (Command.redeem 5 none).toMessage "alice" 5).2 .totalAssets (-30) := by
  obtain ⟨start, hnew, hpast, hlimit, hdust, hmax, hquote⟩ := exists_isNew_of_createSample
    (p := fun v => v.Lawful dearRun
      ∧ (v.after dearRun).ledger.maxDeposit (v.after dearRun).terms "alice" = none
      ∧ (v.after dearRun).ledger.previewDeposit (v.after dearRun).terms 5 = 0
      ∧ (v.after dearRun).ledger.maxRedeem "alice" = 997
      ∧ (v.after dearRun).ledger.previewRedeem 5 = 30)
    (by decide +kernel)
  obtain ⟨⟨limit, preview, hlimit', hpreview', hdeposit⟩,
      ⟨most, quote, hmost', hquote', hredeem⟩, -⟩ :=
    execute_as_answered (start.after dearRun) "alice" (by decide : (0 : Int) ≤ 5) 5 none
  have hanswers := And.intro (And.intro hlimit' hpreview') (And.intro hmost' hquote')
  simp only [answer_eq_ask, ask, receiver, hlimit, hdust, hmax, hquote, limitValue,
    Except.ok.injEq, Value.int.injEq] at hanswers
  obtain ⟨⟨rfl, rfl⟩, rfl, rfl⟩ := hanswers
  refine ⟨_, (Reachable.of_isNew hnew).after hpast, hlimit', hpreview', ?_, hmost', hquote', ?_⟩
  · cases hdone : ((start.after dearRun).execute (Command.deposit 5 none).toMessage "alice" 5).1 with
    | ok x =>
      obtain ⟨-, -, -, hminted⟩ := hdeposit.accepted_iff.mp ⟨x, hdone⟩
      exact absurd rfl hminted
    | error f =>
      obtain ⟨-, r, rfl, hr⟩ := hdeposit.refused f hdone
      cases hr with
      | zero hzero => exact absurd hzero (by decide)
      | funds _ hfunds _ => exact absurd rfl hfunds
      | unstated _ hfunds _ => exact absurd rfl hfunds
      | limit _ _ hbound => cases hbound
      | dust => rfl
  · obtain ⟨x, hx⟩ := hredeem.accepted_iff.mpr ⟨by decide, rfl, by decide⟩
    have hpaid := hredeem.returned x hx
    subst hpaid
    exact ⟨hx, (hredeem.shifted _ hx).2.2⟩

/-- Funds with one digit more than can be written. -/
def longFunds : Int := tenTo Json.maxDigits

/-- A deposit that does not match them is refused, but not as such: there is no message
    that could state the funds, and what is raised is none of the documented refusals. -/
theorem execute_longFunds : ∃ v : Vault KeeperList, v.Reachable
    ∧ (v.execute (Command.deposit 5 none).toMessage "alice" longFunds).1
      = .error (.refused .numeralTooLong)
    ∧ ¬ ∀ f, (v.execute (Command.deposit 5 none).toMessage "alice" longFunds).1 = .error f →
      ∃ r, r ≠ .numeralTooLong ∧ f = .refused r := by
  obtain ⟨v, hnew, -⟩ := exists_isNew_of_createSample (p := fun _ => True) (by decide +kernel)
  have hfive : IsStatable 5 := isStatable_of_lt (by decide) (by decide)
  have hlong : ¬ IsStatable longFunds := by
    unfold IsStatable longFunds
    rw [Text.length_decimal_le_iff (by decide), Int.natAbs_natCast]
    exact Nat.lt_irrefl _
  have hrefused : (v.execute (Command.deposit 5 none).toMessage "alice" longFunds).1
      = .error (.refused .numeralTooLong) := by
    have hanswered := depositAnswered v "alice" (by decide : (0 : Int) ≤ 5) longFunds none
    apply (hanswered.eq_numeralTooLong_iff hfive (fun haccepts => haccepts.2.1) ?_).mpr
    · exact ⟨by decide, hlong⟩
    · intro r hr
      exact hr.eq_numeralTooLong_iff hfive
  refine ⟨v, .of_isNew hnew, hrefused, ?_⟩
  intro hstated
  obtain ⟨r, hr, heq⟩ := hstated _ hrefused
  exact hr (VaultFault.refused.inj heq).symm

end Vault

end ShareVault
