import ShareVault.Proofs.Ledger.Stepwise
import ShareVault.Proofs.Message.Grammar
import ShareVault.Proofs.Vault.Run

/-! # Rejected calls

    Anybody may call a vault with anything. A call that fails raises an error
    out of the middle of the program, and what was changed before it stays
    changed: the vault has no transactions. It needs none, since every check and
    every look-up comes before the first change. So a run of calls is the same
    without those that fail.

    ## Calls
    - `callWire`: a call as the vault is defined to take it;
    - `callSteps`: a call whose changes are made one by one, and stay.

    Main statements:
    - `callSteps_eq`: the two are the same, whatever is called;
    - `callWire_error`: a call that fails leaves the whole vault as it is;
    - `drop_rejected`: the calls that fail can be taken out of a run.
-/

namespace ShareVault

/-- A call from outside: the command as a JSON value, who sends it, and the funds
    attached. -/
structure Call where
  data : Json
  sender : Text
  funds : Int

/-- A handler that leaves its state as it is where it fails. -/
def Handler.IsAtomic (H : Type) [Handler H] : Prop :=
  ∀ (h : H) (m : Message) (sender : Text) (funds : Int) (f : HandlerFault),
    (Handler.execute h m sender funds).1 = .error f → (Handler.execute h m sender funds).2 = h

theorem KeeperList.isAtomic : Handler.IsAtomic KeeperList := by
  intro l m sender funds f h
  exact KeeperList.execute_error h

namespace Vault

/-- What a call raises. -/
inductive Raised where
  | fault (f : VaultFault)
  /-- There is no account to take from. -/
  | noAccount (owner : Text)

/-- What a call raises where a program on the ledger stops. -/
def Raised.ofStop : Ledger.Stop → Raised
  | .refused r => .fault (.refused r)
  | .noAccount owner => .noAccount owner

section Calls

variable {H : Type}

/-! ## Calls step by step -/

/-- Lets a program work on the ledger. Its changes stay, however it ends. -/
def runOnLedger (v : Vault H) (p : Ledger.Steps Int) : Except Raised Value × Vault H :=
  (((p.exec v.ledger).1.map Value.int).mapError .ofStop,
    { v with ledger := (p.exec v.ledger).2 })

variable [Handler H]

/-- Carries out a command, step by step. -/
def performSteps (v : Vault H) (c : Command) (sender : Text) (funds : Int) :
    Except Raised Value × Vault H :=
  match c with
  | .deposit amount recipient =>
    v.runOnLedger (Ledger.depositSteps v.terms amount funds (receiver sender recipient))
  | .redeem amount recipient =>
    v.runOnLedger (Ledger.redeemSteps amount funds sender (receiver sender recipient))
  | .extension payload =>
    let (outcome, v') := v.delegate payload fun h m => Handler.execute h m sender funds
    (outcome.mapError .fault, v')

/-- Takes a call, step by step. -/
def callSteps (v : Vault H) (c : Call) : Except Raised Value × Vault H :=
  match v.commands.decode c.data with
  | .error f => (.error (.fault (.decode f)), v)
  | .ok m =>
    match Command.ofMessage? m with
    | some command => v.performSteps command c.sender c.funds
    | none => (.error (.fault (.notCommand m.inspect)), v)

/-- Takes a call. -/
def callWire (v : Vault H) (c : Call) : Except VaultFault Value × Vault H :=
  let executed := v.executeWire c.data c.sender c.funds
  (executed.outcome, executed.vault)

/-! ## Nothing changes before a failure -/

omit [Handler H] in
/-- Putting the state of a handler back changes nothing. -/
theorem setHandler_of_lookup {name : Text} {h : H} {handlers : List (Text × H)}
    (hlookup : handlers.lookup name = some h) : setHandler name h handlers = handlers := by
  induction handlers with
  | nil => rfl
  | cons p handlers ih =>
    obtain ⟨n, g⟩ := p
    unfold setHandler
    by_cases hn : n = name
    · simp only [hn, List.lookup_cons_self, Option.some.injEq] at hlookup
      simp [hn, hlookup]
    · have hrest : handlers.lookup name = some h := by
        rwa [List.lookup_cons, beq_false_of_ne (Ne.symm hn)] at hlookup
      simp [hn, ih hrest]

omit [Handler H] in
theorem settle_error {v : Vault H} {outcome : Except Refusal (Int × Ledger)} {f : VaultFault}
    (h : (v.settle outcome).1 = .error f) : (v.settle outcome).2 = v := by
  cases outcome with
  | ok p => cases h
  | error r => rfl

omit [Handler H] in
/-- Where the handler leaves its state as it is, so does the vault. -/
theorem delegate_error {v : Vault H} {payload : Message}
    {work : H → Message → Except HandlerFault Value × H}
    (hwork : ∀ h m f, (work h m).1 = .error f → (work h m).2 = h) {f : VaultFault}
    (h : (v.delegate payload work).1 = .error f) : (v.delegate payload work).2 = v := by
  cases payload with
  | capability name inner =>
    simp only [delegate] at h ⊢
    cases hlookup : v.handlers.lookup name with
    | none => rfl
    | some g =>
      simp only [hlookup] at h ⊢
      obtain ⟨e, he, -⟩ := Except.mapError_eq_error.mp h
      rw [hwork g inner e he, setHandler_of_lookup hlookup]
  | _ => rfl

theorem perform_error (hatomic : Handler.IsAtomic H) {v : Vault H} {c : Command} {sender : Text}
    {funds : Int} {f : VaultFault} (h : (v.perform c sender funds).1 = .error f) :
    (v.perform c sender funds).2 = v := by
  cases c with
  | deposit amount recipient => exact settle_error h
  | redeem amount recipient => exact settle_error h
  | extension payload =>
    apply delegate_error _ h
    intro g m e
    exact hatomic g m sender funds e

/-- A call that fails leaves the whole vault as it is. -/
theorem callWire_error (hatomic : Handler.IsAtomic H) {v : Vault H} {c : Call} {f : VaultFault}
    (h : (v.callWire c).1 = .error f) : (v.callWire c).2 = v := by
  unfold callWire executeWire at h ⊢
  cases hdecode : v.commands.decode c.data with
  | error e => rfl
  | ok m =>
    simp only [hdecode, executeLogged, execute] at h ⊢
    cases hc : Command.ofMessage? m with
    | none => rfl
    | some command =>
      simp only [hc] at h ⊢
      exact perform_error hatomic h

/-! ## Both ways of taking a call -/

/-- What comes of a call, as what comes of its steps. -/
def asRaised (p : Except VaultFault Value × Vault H) : Except Raised Value × Vault H :=
  (p.1.mapError .fault, p.2)

omit [Handler H] in
/-- An action that is all or nothing is settled as its program leaves it. -/
theorem runOnLedger_of_exec {v : Vault H} {p : Ledger.Steps Int}
    {outcome : Except Refusal (Int × Ledger)} (h : p.exec v.ledger = v.ledger.ended outcome) :
    v.runOnLedger p = asRaised (v.settle outcome) := by
  unfold runOnLedger
  rw [h]
  cases outcome with
  | ok p => rfl
  | error r => rfl

theorem performSteps_eq (v : Vault H) {c : Command} (hc : c.IsUnsigned) (sender : Text)
    (funds : Int) : v.performSteps c sender funds = asRaised (v.perform c sender funds) := by
  cases c with
  | deposit amount recipient => exact runOnLedger_of_exec (Ledger.exec_depositSteps ..)
  | redeem amount recipient => exact runOnLedger_of_exec (Ledger.exec_redeemSteps _ hc ..)
  | extension payload => rfl

theorem forall₂_pair {α β : Type} {R : α → β → Prop} {a b : α} {ys : List β}
    (h : List.Forall₂ R [a, b] ys) : ∃ x y, R a x ∧ R b y ∧ ys = [x, y] := by
  obtain ⟨x, rest, hx, hrest, rfl⟩ := List.forall₂_cons_left_iff.mp h
  obtain ⟨y, rest', hy, hrest', rfl⟩ := List.forall₂_cons_left_iff.mp hrest
  cases hrest'
  exact ⟨x, y, hx, hy, rfl⟩

theorem exists_of_holds_amount {x : Value} (h : Family.amountShape.Holds x) :
    ∃ n : Nat, x = .int n := by
  unfold Family.amountShape at h
  cases h with
  | wide hfits => exact ⟨_, rfl⟩

theorem null_or_text_of_holds {x : Value} (h : (Shape.optional .text).Holds x) :
    x = .null ∨ ∃ t, x = .text t := by
  cases h with
  | null => exact .inl rfl
  | some h =>
    cases h with
    | text t => exact .inr ⟨t, rfl⟩

/-- The amounts in commands that a family decodes are unsigned. -/
theorem isUnsigned_of_decode {payload : Decoder Message} {data : Json} {m : Message}
    (hm : (Family.execute.union payload).decode data = .ok m) {c : Command}
    (hc : Command.ofMessage? m = some c) : c.IsUnsigned := by
  obtain ⟨tag, p, d, -, hfind, hd⟩ := TaggedUnion.decode_eq_ok.mp hm
  rcases Family.mem_decoders_union.mp (TaggedUnion.mem_of_find? hfind) with ⟨w, hw, hmember⟩ | hext
  · obtain ⟨-, rfl⟩ := Prod.mk.inj hmember
    have hproper := Family.execute.isProper_variants w hw
    obtain ⟨values, hwritten, rfl⟩ := (Variant.member_eq_ok hproper).mp hd
    have hholds := hwritten.holds hproper
    simp only [Family.variants, List.mem_cons, List.not_mem_nil, or_false] at hw
    rcases hw with rfl | rfl
    · obtain ⟨amount, recipient, hamount, -, rfl⟩ := forall₂_pair hholds
      obtain ⟨n, rfl⟩ := exists_of_holds_amount hamount
      cases hc
      exact Int.natCast_nonneg n
    · obtain ⟨recipient, amount, hrecipient, hamount, rfl⟩ := forall₂_pair hholds
      obtain ⟨n, rfl⟩ := exists_of_holds_amount hamount
      have hnull : recipient = .null ∨ ∃ t, recipient = .text t :=
        null_or_text_of_holds hrecipient
      rcases hnull with rfl | ⟨t, rfl⟩
      · cases hc
        exact Int.natCast_nonneg n
      · cases hc
        exact Int.natCast_nonneg n
  · obtain ⟨-, rfl⟩ := Prod.mk.inj hext
    obtain ⟨inner, -, rfl⟩ := Except.map_eq_ok.mp hd
    cases hc
    trivial

/-- A vault that takes the commands of its family, as each one does from the start
    and whatever it is sent. -/
def TakesCommands (v : Vault H) : Prop :=
  ∃ payload, v.commands = Family.execute.union payload

/-- Whatever is called, the steps come to what the call is defined to do. -/
theorem callSteps_eq {v : Vault H} (hv : v.TakesCommands) (c : Call) :
    v.callSteps c = asRaised (v.callWire c) := by
  obtain ⟨payload, hpayload⟩ := hv
  unfold callSteps callWire executeWire
  cases hdecode : v.commands.decode c.data with
  | error f => rfl
  | ok m =>
    simp only [executeLogged, execute]
    cases hc : Command.ofMessage? m with
    | none => rfl
    | some command =>
      rw [hpayload] at hdecode
      exact performSteps_eq v (isUnsigned_of_decode hdecode hc) c.sender c.funds

theorem commands_perform (v : Vault H) (c : Command) (sender : Text) (funds : Int) :
    (v.perform c sender funds).2.commands = v.commands := by
  have hsettle : ∀ outcome, (v.settle outcome).2.commands = v.commands := by
    intro outcome
    obtain ⟨ledger, h⟩ := v.settle_frame outcome
    rw [h]
  cases c with
  | deposit amount recipient => exact hsettle _
  | redeem amount recipient => exact hsettle _
  | extension payload =>
    obtain ⟨handlers, h⟩ := v.delegate_frame payload fun h m => Handler.execute h m sender funds
    show (v.delegate payload fun h m => Handler.execute h m sender funds).2.commands = v.commands
    rw [h]

theorem TakesCommands.callWire {v : Vault H} (hv : v.TakesCommands) (c : Call) :
    (v.callWire c).2.TakesCommands := by
  have hcommands : (v.callWire c).2.commands = v.commands := by
    unfold Vault.callWire executeWire
    cases v.commands.decode c.data with
    | error f => rfl
    | ok m =>
      simp only [executeLogged, execute]
      cases Command.ofMessage? m with
      | none => rfl
      | some command => exact commands_perform ..
  obtain ⟨payload, hpayload⟩ := hv
  exact ⟨payload, hcommands.trans hpayload⟩

end Calls

/-! ## Runs of calls -/

section Runs

variable {H ε : Type} (take : Vault H → Call → Except ε Value × Vault H)

/-- What comes of calls that are taken one after the other. -/
def outcomes (v : Vault H) : List Call → List (Except ε Value)
  | [] => []
  | c :: calls => (take v c).1 :: outcomes (take v c).2 calls

/-- The vault after some calls, whether they failed or not. -/
def afterCalls (v : Vault H) : List Call → Vault H
  | [] => v
  | c :: calls => afterCalls (take v c).2 calls

/-- Those of some calls that do not fail when they are taken. -/
def accepted (v : Vault H) : List Call → List Call
  | [] => []
  | c :: calls =>
    if (take v c).1.isOk then c :: accepted (take v c).2 calls else accepted (take v c).2 calls

variable {take}

/-- Where a failure changes nothing, the calls that fail can be taken out. -/
theorem outcomes_accepted
    (htake : ∀ v c e, (take v c).1 = .error e → (take v c).2 = v) (v : Vault H)
    (calls : List Call) :
    outcomes take v (accepted take v calls) = (outcomes take v calls).filter Except.isOk
      ∧ afterCalls take v (accepted take v calls) = afterCalls take v calls := by
  induction calls generalizing v with
  | nil => exact ⟨rfl, rfl⟩
  | cons c calls ih =>
    unfold accepted
    cases hc : (take v c).1 with
    | error e =>
      have hfailed : (Except.error e : Except ε Value).isOk = false := rfl
      have hsame := htake v c e hc
      obtain ⟨houtcomes, hafter⟩ := ih v
      simp [outcomes, afterCalls, hc, hfailed, hsame, houtcomes, hafter]
    | ok x =>
      have hgiven : (Except.ok x : Except ε Value).isOk = true := rfl
      obtain ⟨houtcomes, hafter⟩ := ih (take v c).2
      simp [outcomes, afterCalls, hc, hgiven, houtcomes, hafter]

variable [Handler H]

omit [Handler H] in
theorem isOk_mapError (outcome : Except VaultFault Value) :
    (outcome.mapError Raised.fault).isOk = outcome.isOk := by
  cases outcome <;> rfl

/-- A run of calls is the same, step by step. -/
theorem callSteps_run {v : Vault H} (hv : v.TakesCommands) (calls : List Call) :
    outcomes callSteps v calls
        = (outcomes callWire v calls).map (fun outcome => outcome.mapError .fault)
      ∧ afterCalls callSteps v calls = afterCalls callWire v calls
      ∧ accepted callSteps v calls = accepted callWire v calls := by
  induction calls generalizing v with
  | nil => exact ⟨rfl, rfl, rfl⟩
  | cons c calls ih =>
    obtain ⟨houtcomes, hafter, haccepted⟩ := ih (hv.callWire c)
    have hstep := callSteps_eq hv c
    simp [outcomes, afterCalls, accepted, hstep, asRaised, isOk_mapError, houtcomes, hafter,
      haccepted]

end Runs

/-- The calls that fail can be taken out of a run: those that are left come to
    the same, and so does the vault, with its accounts, its storage and the state
    of its handlers. -/
theorem drop_rejected {v : Vault KeeperList} (hv : v.TakesCommands) (calls : List Call) :
    (outcomes callSteps v calls
        = (outcomes callWire v calls).map (fun outcome => outcome.mapError .fault)
      ∧ afterCalls callSteps v calls = afterCalls callWire v calls)
    ∧ outcomes callSteps v (accepted callSteps v calls)
        = (outcomes callSteps v calls).filter Except.isOk
    ∧ afterCalls callSteps v (accepted callSteps v calls) = afterCalls callSteps v calls := by
  have hrun := callSteps_run hv calls
  have hrest := callSteps_run hv (accepted callSteps v calls)
  obtain ⟨houtcomes, hafter⟩ := outcomes_accepted
    (fun v c e => callWire_error (v := v) (c := c) (f := e) KeeperList.isAtomic) v calls
  refine ⟨⟨hrun.1, hrun.2.1⟩, ?_, ?_⟩
  · rw [hrest.1, hrun.2.2, hrun.1, houtcomes, List.filter_map]
    congr 2
    funext outcome
    exact (isOk_mapError outcome).symm
  · rw [hrest.2.1, hrun.2.2, hrun.2.1, hafter]

/-- Calls of which every second one fails: no message, no funds, a capability
    that the vault does not have, an absent keeper, and too many shares. -/
def sampleCalls : List Call :=
  [⟨.text "deposit", "alice", 0⟩,
    ⟨.object [("deposit", .object [("amount", .text "1000")])], "alice", 1000⟩,
    ⟨.object [("deposit", .object [("amount", .text "1000")])], "alice", 999⟩,
    ⟨keeperCall "add_keeper" "bob", "alice", 0⟩,
    ⟨.object [("vault_extension", .object [("lockup", .int 5)])], "alice", 0⟩,
    ⟨keeperCall "remove_keeper" "bob", "alice", 0⟩,
    ⟨keeperCall "remove_keeper" "bob", "alice", 0⟩,
    ⟨.object [("redeem", .object [("amount", .text "900")])], "alice", 900⟩,
    ⟨.object [("redeem", .object [("amount", .text "900")])], "alice", 900⟩]
where
  /-- A call for the keeper capability. -/
  keeperCall (tag address : Text) : Json :=
    .object [("vault_extension", .object [("keeper",
      .object [(tag, .object [("address", .text address)])])])]

theorem drop_rejected_sampleCalls : ∃ v : Vault KeeperList, v.TakesCommands
    ∧ (outcomes callWire v sampleCalls).map Except.isOk
      = [false, true, false, true, false, true, false, true, false]
    ∧ outcomes callSteps v (accepted callSteps v sampleCalls)
      = (outcomes callSteps v sampleCalls).filter Except.isOk
    ∧ afterCalls callSteps v (accepted callSteps v sampleCalls)
      = afterCalls callSteps v sampleCalls := by
  obtain ⟨v, hnew, hfailures⟩ := exists_isNew_of_createSample
    (p := fun v => (outcomes callWire v sampleCalls).map Except.isOk
      = [false, true, false, true, false, true, false, true, false])
    (by decide +kernel)
  obtain ⟨-, houtcomes, hafter⟩ := drop_rejected hnew.commands sampleCalls
  exact ⟨v, hnew.commands, hfailures, houtcomes, hafter⟩

end Vault

end ShareVault
