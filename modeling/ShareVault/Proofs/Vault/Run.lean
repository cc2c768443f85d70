import ShareVault.Proofs.Capability.Growth
import ShareVault.Proofs.Ledger.Sound
import ShareVault.Vault.Basic
import ShareVault.Vault.KeeperList

/-! # Runs of a vault

    A vault lives through commands that anybody sends, and through changes of its
    assets that come from outside. A command may be accepted or refused; an act
    that is no command may be a yield or a loss.

    Every act leaves a receipt, read off the command and its outcome alone. The
    accounts after a run are those before it with the receipts posted, so that
    what holds of due receipts holds of runs.

    Main statements:
    - `ledger_after`: the accounts of a vault are what its receipts say;
    - `areDue_receipts`: and the receipts are due;
    - `Reachable.sound`: no vault ever gets unsound accounts.
-/

namespace ShareVault

/-- What happens to a vault. -/
inductive Act where
  /-- Somebody sends a command with some funds attached. -/
  | command (c : Command) (sender : Text) (funds : Int)
  /-- The assets change from outside. -/
  | outside (change : Int)

/-- Amounts in commands are unsigned. -/
def Command.IsUnsigned : Command → Prop
  | .deposit amount _ => 0 ≤ amount
  | .redeem amount _ => 0 ≤ amount
  | .extension _ => True

instance Command.decidableIsUnsigned : (c : Command) → Decidable c.IsUnsigned
  | .deposit amount _ => inferInstanceAs (Decidable (0 ≤ amount))
  | .redeem amount _ => inferInstanceAs (Decidable (0 ≤ amount))
  | .extension _ => inferInstanceAs (Decidable True)

/-- The receipt for a command of a sender, by its outcome. -/
def Command.receipt (c : Command) (sender : Text) (outcome : Except VaultFault Value) : Receipt :=
  match c, outcome with
  | .deposit amount recipient, .ok (.int shares) =>
    .minted (Vault.receiver sender recipient) amount shares
  | .redeem amount recipient, .ok (.int paid) =>
    .burned sender amount (Vault.receiver sender recipient) paid
  | _, _ => .nothing

namespace Vault

variable {H : Type} [Handler H]

/-! ## One act -/

/-- The vault after an act. -/
def act (v : Vault H) : Act → Vault H
  | .command c sender funds => (v.execute c.toMessage sender funds).2
  | .outside change => { v with ledger := v.ledger.shift change }

/-- The receipt for an act. -/
def receipt (v : Vault H) : Act → Receipt
  | .command c sender funds => c.receipt sender (v.execute c.toMessage sender funds).1
  | .outside change => .moved change

/-- The acts that can happen: no command has a negative amount, and no loss is
    greater than the assets. -/
def Allows (v : Vault H) : Act → Prop
  | .command c _ _ => c.IsUnsigned
  | .outside change => 0 ≤ v.ledger.totalAssets + change

instance decidableAllows (v : Vault H) : (a : Act) → Decidable (v.Allows a)
  | .command c _ _ => inferInstanceAs (Decidable c.IsUnsigned)
  | .outside change => inferInstanceAs (Decidable (0 ≤ v.ledger.totalAssets + change))

theorem execute_toMessage (v : Vault H) (c : Command) (sender : Text) (funds : Int) :
    v.execute c.toMessage sender funds = v.perform c sender funds := by
  unfold execute
  rw [Command.ofMessage?_toMessage]

omit [Handler H] in
theorem delegate_frame (v : Vault H) (payload : Message)
    (work : H → Message → Except HandlerFault Value × H) :
    ∃ handlers, (v.delegate payload work).2 = { v with handlers := handlers } := by
  cases payload with
  | capability name inner =>
    simp only [delegate]
    cases v.handlers.lookup name with
    | none => exact ⟨v.handlers, rfl⟩
    | some h => exact ⟨_, rfl⟩
  | _ => exact ⟨v.handlers, rfl⟩

omit [Handler H] in
theorem settle_frame (v : Vault H) (outcome : Except Refusal (Int × Ledger)) :
    ∃ ledger, (v.settle outcome).2 = { v with ledger := ledger } := by
  cases outcome with
  | ok p => exact ⟨p.2, rfl⟩
  | error r => exact ⟨v.ledger, rfl⟩

/-- An act changes nothing but the accounts and the state of the handlers. -/
theorem act_frame (v : Vault H) (a : Act) :
    ∃ ledger handlers, v.act a = { v with ledger := ledger, handlers := handlers } := by
  have hledger : ∀ outcome, ∃ ledger handlers,
      (v.settle outcome).2 = { v with ledger := ledger, handlers := handlers } := by
    intro outcome
    obtain ⟨ledger, h⟩ := v.settle_frame outcome
    exact ⟨ledger, v.handlers, h⟩
  cases a with
  | outside change => exact ⟨_, v.handlers, rfl⟩
  | command c sender funds =>
    simp only [act, execute_toMessage]
    cases c with
    | deposit amount recipient => exact hledger _
    | redeem amount recipient => exact hledger _
    | extension payload =>
      obtain ⟨handlers, h⟩ := v.delegate_frame payload fun h m => Handler.execute h m sender funds
      exact ⟨v.ledger, handlers, h⟩

theorem terms_act (v : Vault H) (a : Act) : (v.act a).terms = v.terms := by
  obtain ⟨ledger, handlers, h⟩ := v.act_frame a
  rw [h]

theorem questions_act (v : Vault H) (a : Act) : (v.act a).questions = v.questions := by
  obtain ⟨ledger, handlers, h⟩ := v.act_frame a
  rw [h]

/-- An act changes the accounts as its receipt says. -/
theorem ledger_act (v : Vault H) (a : Act) :
    (v.act a).ledger = v.ledger.post v.terms (v.receipt a) := by
  cases a with
  | outside change => rfl
  | command c sender funds =>
    simp only [act, receipt, execute_toMessage]
    cases c with
    | deposit amount recipient =>
      simp only [perform]
      cases hd : v.ledger.deposit v.terms amount funds (receiver sender recipient) with
      | error r => rfl
      | ok p =>
        obtain ⟨-, -, -, -, rfl⟩ := Ledger.deposit_eq_ok_iff.mp hd
        rfl
    | redeem amount recipient =>
      simp only [perform]
      cases hr : v.ledger.redeem amount funds sender (receiver sender recipient) with
      | error r => rfl
      | ok p =>
        obtain ⟨-, -, -, rfl⟩ := Ledger.redeem_eq_ok_iff.mp hr
        rfl
    -- A capability works on its own state, not on the accounts.
    | extension payload => exact delegate_ledger ..

/-- Only a due receipt is issued. -/
theorem isDue_receipt {v : Vault H} {a : Act} (ha : v.Allows a) :
    v.ledger.IsDue v.terms (v.receipt a) := by
  cases a with
  | outside change => exact ha
  | command c sender funds =>
    simp only [receipt, execute_toMessage]
    cases c with
    | deposit amount recipient =>
      simp only [perform]
      -- A refusal has the receipt for nothing, and that is always due.
      cases hd : v.ledger.deposit v.terms amount funds (receiver sender recipient) with
      | error r => trivial
      | ok p =>
        obtain ⟨hzero, -, hlimit, hshares, rfl⟩ := Ledger.deposit_eq_ok_iff.mp hd
        have hamount : 0 ≤ amount := ha
        exact ⟨by omega, hlimit, hshares, rfl⟩
    | redeem amount recipient =>
      simp only [perform]
      cases hr : v.ledger.redeem amount funds sender (receiver sender recipient) with
      | error r => trivial
      | ok p =>
        obtain ⟨hzero, -, hmax, rfl⟩ := Ledger.redeem_eq_ok_iff.mp hr
        have hamount : 0 ≤ amount := ha
        exact ⟨by omega, hmax, rfl⟩
    | extension payload => trivial

/-! ## Runs -/

/-- The vault after some acts, one after the other. -/
def after (v : Vault H) : List Act → Vault H
  | [] => v
  | a :: acts => (v.act a).after acts

/-- The vault before, between and after some acts. -/
def states (v : Vault H) : List Act → List (Vault H)
  | [] => [v]
  | a :: acts => v :: (v.act a).states acts

/-- The receipts for some acts. -/
def receipts (v : Vault H) : List Act → List Receipt
  | [] => []
  | a :: acts => v.receipt a :: (v.act a).receipts acts

/-- Whether some acts can happen, one after the other. -/
def Lawful (v : Vault H) : List Act → Prop
  | [] => True
  | a :: acts => v.Allows a ∧ (v.act a).Lawful acts

instance decidableLawful : (v : Vault H) → (acts : List Act) → Decidable (v.Lawful acts)
  | _, [] => isTrue trivial
  | v, a :: acts =>
    have := decidableLawful (v.act a) acts
    inferInstanceAs (Decidable (v.Allows a ∧ (v.act a).Lawful acts))

theorem terms_after (v : Vault H) (acts : List Act) : (v.after acts).terms = v.terms := by
  induction acts generalizing v with
  | nil => rfl
  | cons a acts ih =>
    unfold after
    rw [ih, terms_act]

theorem questions_after (v : Vault H) (acts : List Act) :
    (v.after acts).questions = v.questions := by
  induction acts generalizing v with
  | nil => rfl
  | cons a acts ih =>
    unfold after
    rw [ih, questions_act]

/-- The accounts of a vault are what its receipts say. -/
theorem ledger_after (v : Vault H) (acts : List Act) :
    (v.after acts).ledger = v.ledger.postAll v.terms (v.receipts acts) := by
  induction acts generalizing v with
  | nil => rfl
  | cons a acts ih =>
    unfold after receipts Ledger.postAll
    rw [ih, terms_act, ledger_act]

theorem areDue_receipts {v : Vault H} {acts : List Act} (h : v.Lawful acts) :
    v.ledger.AreDue v.terms (v.receipts acts) := by
  induction acts generalizing v with
  | nil => trivial
  | cons a acts ih =>
    obtain ⟨ha, hrest⟩ := h
    refine ⟨isDue_receipt ha, ?_⟩
    rw [← ledger_act, ← terms_act v a]
    exact ih hrest

theorem after_append (v : Vault H) (first second : List Act) :
    v.after (first ++ second) = (v.after first).after second := by
  induction first generalizing v with
  | nil => rfl
  | cons a first ih => exact ih (v.act a)

theorem lawful_append {v : Vault H} {first second : List Act} (hfirst : v.Lawful first)
    (hsecond : (v.after first).Lawful second) : v.Lawful (first ++ second) := by
  induction first generalizing v with
  | nil => exact hsecond
  | cons a first ih =>
    obtain ⟨ha, hrest⟩ := hfirst
    exact ⟨ha, ih hrest hsecond⟩

theorem after_mem_states (v : Vault H) (acts : List Act) : v.after acts ∈ v.states acts := by
  induction acts generalizing v with
  | nil => exact List.mem_cons_self ..
  | cons a acts ih => exact List.mem_cons_of_mem v (ih (v.act a))

/-- A state in the course of a run is the last state of its own past. -/
theorem exists_after_of_mem_states {v w : Vault H} {acts : List Act} (hacts : v.Lawful acts)
    (hw : w ∈ v.states acts) : ∃ past, v.Lawful past ∧ v.after past = w := by
  induction acts generalizing v with
  | nil =>
    rw [states, List.mem_singleton] at hw
    exact ⟨[], trivial, hw.symm⟩
  | cons a acts ih =>
    obtain ⟨ha, hrest⟩ := hacts
    rw [states, List.mem_cons] at hw
    rcases hw with hself | hlater
    · exact ⟨[], trivial, hself.symm⟩
    · obtain ⟨past, hpast, hend⟩ := ih hrest hlater
      exact ⟨a :: past, ⟨ha, hpast⟩, hend⟩

/-! ## Reachable vaults -/

omit [Handler H] in
/-- A vault that was just created, with whatever tokens, terms, version and
    handlers. -/
def IsNew (v : Vault H) : Prop :=
  ∃ (r : Registry) (baseToken vaultToken : Token) (terms : Terms) (version : Json)
    (handlers : List (Text × H)),
    create r baseToken vaultToken terms version handlers = .ok v

/-- A vault that some lawful run leads to. -/
def Reachable (v : Vault H) : Prop :=
  ∃ (start : Vault H) (past : List Act), start.IsNew ∧ start.Lawful past ∧ start.after past = v

omit [Handler H] in
/-- What a new vault is made of. -/
theorem create_eq_ok {r : Registry} {baseToken vaultToken : Token} {terms : Terms}
    {version : Json} {handlers : List (Text × H)} {v : Vault H}
    (h : create r baseToken vaultToken terms version handlers = .ok v) :
    terms.IsFair ∧ ∃ info commands questions text,
      r.standardInfo version (handlers.map Prod.fst) = .ok info
      ∧ r.union .execute info.extensions = .ok commands
      ∧ r.union .query info.extensions = .ok questions
      ∧ info.toJson.valueText? = some text
      ∧ v = ⟨⟨baseToken, vaultToken⟩, terms, .empty, handlers, commands, questions,
          [(standardInfoKey, Encoding.encodeUtf8 text)]⟩ := by
  unfold create at h
  split at h
  · cases h
  · next hfee =>
    rw [not_or, Int.not_lt, Int.not_le] at hfee
    refine ⟨hfee, ?_⟩
    cases hinfo : r.standardInfo version (handlers.map Prod.fst) with
    | error f => simp [hinfo] at h
    | ok info =>
      simp only [hinfo] at h
      split at h
      · next commands questions text hcommands hquestions htext =>
        exact ⟨info, commands, questions, text, rfl, hcommands, hquestions, htext,
          (Except.ok.inj h).symm⟩
      · cases h
      · cases h
      · cases h

omit [Handler H] in
/-- A new vault has a fee that is part of each deposit, empty accounts, and the
    questions of its family. -/
theorem IsNew.made {v : Vault H} (h : v.IsNew) :
    v.terms.IsFair ∧ v.ledger = .empty ∧ ∃ payload, v.questions = Family.query.union payload := by
  obtain ⟨r, baseToken, vaultToken, terms, version, handlers, h⟩ := h
  obtain ⟨hfair, info, commands, questions, text, -, -, hquestions, -, rfl⟩ := create_eq_ok h
  obtain ⟨payload, -, rfl⟩ := Registry.union_eq_ok hquestions
  exact ⟨hfair, rfl, payload.decode, rfl⟩

omit [Handler H] in
/-- A new vault takes the commands of its family. -/
theorem IsNew.commands {v : Vault H} (h : v.IsNew) :
    ∃ payload, v.commands = Family.execute.union payload := by
  obtain ⟨r, baseToken, vaultToken, terms, version, handlers, h⟩ := h
  obtain ⟨-, info, commands, questions, text, -, hcommands, -, -, rfl⟩ := create_eq_ok h
  obtain ⟨payload, -, rfl⟩ := Registry.union_eq_ok hcommands
  exact ⟨payload.decode, rfl⟩

omit [Handler H] in
theorem IsNew.spec {v : Vault H} (h : v.IsNew) : v.terms.IsFair ∧ v.ledger = .empty :=
  ⟨h.made.1, h.made.2.1⟩

namespace Reachable

variable {v : Vault H}

theorem of_isNew (h : v.IsNew) : v.Reachable := ⟨v, [], h, trivial, rfl⟩

theorem after (h : v.Reachable) {acts : List Act} (hacts : v.Lawful acts) :
    (v.after acts).Reachable := by
  obtain ⟨start, past, hnew, hpast, rfl⟩ := h
  exact ⟨start, past ++ acts, hnew, lawful_append hpast hacts, after_append ..⟩

theorem isFair (h : v.Reachable) : v.terms.IsFair := by
  obtain ⟨start, past, hnew, -, rfl⟩ := h
  rw [terms_after]
  exact hnew.spec.1

/-- No vault ever gets unsound accounts. -/
theorem sound (h : v.Reachable) : v.ledger.Sound := by
  obtain ⟨start, past, hnew, hpast, rfl⟩ := h
  obtain ⟨hfair, hempty⟩ := hnew.spec
  have hstart : start.ledger.Sound := by
    rw [hempty]
    exact Ledger.Sound.empty
  rw [ledger_after]
  exact hstart.postAll hfair (areDue_receipts hpast)

end Reachable

/-! ## A sample -/

/-- A new vault that takes a fee of 0.3 percent and has a list of keepers. -/
def createSample : Except CreationFault (Vault KeeperList) :=
  create Registry.standard (.native "uosmo") (.synthetic "osmo1vault") ⟨30, none, none, true⟩
    (.int 1) [("keeper", .empty)]

omit [Handler H] in
/-- What a vault does when it is created and run is true of some new vault. -/
theorem exists_isNew_of_create (r : Registry) (baseToken vaultToken : Token) (terms : Terms)
    (version : Json) (handlers : List (Text × H)) {p : Vault H → Prop} [DecidablePred p]
    (h : (create r baseToken vaultToken terms version handlers).toOption.any
      (fun v => decide (p v)) = true) : ∃ v : Vault H, v.IsNew ∧ p v := by
  cases hv : create r baseToken vaultToken terms version handlers with
  | error f =>
    rw [hv] at h
    cases h
  | ok v =>
    rw [hv] at h
    exact ⟨v, ⟨_, _, _, _, _, _, hv⟩, of_decide_eq_true h⟩

theorem exists_isNew_of_createSample {p : Vault KeeperList → Prop} [DecidablePred p]
    (h : createSample.toOption.any (fun v => decide (p v)) = true) :
    ∃ v : Vault KeeperList, v.IsNew ∧ p v :=
  exists_isNew_of_create _ _ _ _ _ _ h

end Vault

end ShareVault
