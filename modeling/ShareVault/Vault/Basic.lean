import ShareVault.Capability.Registry
import ShareVault.Ledger.Basic
import ShareVault.Message.Meaning
import ShareVault.Message.Response
import ShareVault.Vault.Handler

/-! # Vaults

    A vault keeps a ledger, takes the messages of its two families, and passes
    the payloads for capabilities on to handlers. What it says about the
    standard that it follows is kept in its storage, under a known key, where it
    can be read without a query.

    ## Operations
    - `create`: a vault with an empty ledger;
    - `execute`, `query`: messages;
    - `executeWire`, `queryWire`, `rawQuery`: the same from the outside, where
      messages are JSON values and answers are texts.

    Main statements:
    - `lookup_setHandler_self`, `lookup_setHandler_of_ne`: whose state changes;
    - `execute_error_ledger`: a command that fails leaves the ledger as it is;
    - `execute_storage`, `query_storage`: nothing touches the storage;
    - `query_ledger`: and no query touches the ledger.
-/

namespace ShareVault

/-- A vault whose handlers are of type `H`. -/
structure Vault (H : Type) where
  info : VaultInfo
  terms : Terms
  ledger : Ledger
  /-- The handler of each supported capability. -/
  handlers : List (Text × H)
  commands : TaggedUnion Message
  questions : TaggedUnion Message
  storage : List (Bytes × Bytes)

/-- Why a vault cannot be created. -/
inductive CreationFault where
  /-- The fee is negative or the whole deposit. -/
  | feeOutOfRange (bps : Int)
  | support (f : SupportFault)
  /-- The name of a capability holds a surrogate. -/
  | unwritable

/-- The wording of the refusal of a fee. -/
def CreationFault.feeMessage (bps : Int) : Text :=
  "deposit_fee_bps must be in [0, " ++ Text.ofInt Terms.bpsWhole ++ "), got " ++ Text.ofInt bps

/-- Why a vault does not do what it is asked. -/
inductive VaultFault where
  /-- The value is no message. -/
  | decode (f : DecodeFault)
  | refused (r : Refusal)
  /-- There is no handler for the capability. -/
  | unsupported (capability : Text)
  /-- The payload names no capability. -/
  | unaddressed
  /-- The message, as a report shows it, is no command. -/
  | notCommand (shown : Text)
  /-- The message, as a report shows it, is no query. -/
  | notQuestion (shown : Text)
  | handler (f : HandlerFault)
  | response (f : EncodeFault)
  /-- The information in the storage has issues. -/
  | badStorage (issues : List Issue)

namespace VaultFault

/-- What is said about a message that is no command. -/
def notCommandMessage (shown : Text) : Text := "Not an ExecuteMsg: " ++ shown

/-- What is said about a message that is no query. -/
def notQuestionMessage (shown : Text) : Text := "Not a QueryMsg: " ++ shown

/-- The wording of a refusal in the terms of the standard. A message that cannot be
    made is no such refusal. -/
def refusal? : VaultFault → Option Text
  | .refused .numeralTooLong => none
  | .refused r => some r.message
  | .unsupported capability => some (DecodeFault.unsupported capability).message
  | .handler (.refused _ why) => some why
  | _ => none

end VaultFault

namespace Vault

/-- The key under which a vault stores what it says about the standard. -/
def standardInfoKey : Bytes := Encoding.encodeUtf8 "vault_standard_info"

/-- A vault with an empty ledger. -/
def create {H : Type} (r : Registry) (baseToken vaultToken : Token) (terms : Terms)
    (version : Json) (handlers : List (Text × H)) : Except CreationFault (Vault H) :=
  if terms.feeBps < 0 ∨ Terms.bpsWhole ≤ terms.feeBps then
    .error (.feeOutOfRange terms.feeBps)
  else
    let names := handlers.map Prod.fst
    -- The names in the information are known, so both unions exist.
    match r.standardInfo version names with
    | .error f => .error (.support f)
    | .ok info =>
      match r.union .execute info.extensions, r.union .query info.extensions,
          info.toJson.valueText? with
      | .ok commands, .ok questions, some text =>
        .ok { info := ⟨baseToken, vaultToken⟩, terms := terms, ledger := .empty
              handlers := handlers, commands := commands, questions := questions
              storage := [(standardInfoKey, Encoding.encodeUtf8 text)] }
      | .error name, _, _ => .error (.support (.unsupported name))
      | _, .error name, _ => .error (.support (.unsupported name))
      | _, _, none => .error .unwritable

variable {H : Type}

/-- The value under a key of the storage. -/
def rawQuery (v : Vault H) (key : Bytes) : Option Bytes := v.storage.lookup key

/-! ## Handlers -/

/-- Puts a new state in place of that of a handler. -/
def setHandler (name : Text) (h : H) : List (Text × H) → List (Text × H)
  | [] => []
  | (n, g) :: rest => if n = name then (n, h) :: rest else (n, g) :: setHandler name h rest

/-- The state of a handler is put in place under its name. -/
theorem names_setHandler (name : Text) (h : H) (handlers : List (Text × H)) :
    (setHandler name h handlers).map Prod.fst = handlers.map Prod.fst := by
  induction handlers with
  | nil => rfl
  | cons p handlers ih =>
    obtain ⟨n, g⟩ := p
    unfold setHandler
    by_cases hn : n = name
    · rw [if_pos hn]
      rfl
    · rw [if_neg hn, List.map_cons, List.map_cons, ih]

/-- A handler that is there has the new state. -/
theorem lookup_setHandler_self {name : Text} {g : H} {handlers : List (Text × H)}
    (hlookup : handlers.lookup name = some g) (h : H) :
    (setHandler name h handlers).lookup name = some h := by
  induction handlers with
  | nil => cases hlookup
  | cons p handlers ih =>
    obtain ⟨n, f⟩ := p
    unfold setHandler
    by_cases hn : n = name
    · rw [if_pos hn]
      subst hn
      exact List.lookup_cons_self
    · have hskip : (name == n) = false := beq_eq_false_iff_ne.mpr (Ne.symm hn)
      rw [if_neg hn, List.lookup_cons, hskip]
      rw [List.lookup_cons, hskip] at hlookup
      exact ih hlookup

/-- Every other handler has the state that it had. -/
theorem lookup_setHandler_of_ne {name other : Text} (hother : other ≠ name) (h : H)
    (handlers : List (Text × H)) :
    (setHandler name h handlers).lookup other = handlers.lookup other := by
  induction handlers with
  | nil => rfl
  | cons p handlers ih =>
    obtain ⟨n, f⟩ := p
    unfold setHandler
    by_cases hn : n = name
    · subst hn
      have hskip : (other == n) = false := beq_eq_false_iff_ne.mpr hother
      rw [if_pos rfl, List.lookup_cons, List.lookup_cons, hskip]
    · rw [if_neg hn, List.lookup_cons, List.lookup_cons, ih]

/-- Lets the handler that a payload is for work on the message inside. -/
def delegate (v : Vault H) (payload : Message)
    (act : H → Message → Except HandlerFault Value × H) : Except VaultFault Value × Vault H :=
  match payload with
  | .capability name inner =>
    match v.handlers.lookup name with
    | none => (.error (.unsupported name), v)
    | some h =>
      let (outcome, h') := act h inner
      (outcome.mapError .handler, { v with handlers := setHandler name h' v.handlers })
  | _ => (.error .unaddressed, v)

theorem delegate_ledger (v : Vault H) (payload : Message)
    (act : H → Message → Except HandlerFault Value × H) :
    (v.delegate payload act).2.ledger = v.ledger := by
  cases payload with
  | capability name inner =>
    simp only [delegate]
    cases v.handlers.lookup name <;> rfl
  | _ => rfl

theorem delegate_storage (v : Vault H) (payload : Message)
    (act : H → Message → Except HandlerFault Value × H) :
    (v.delegate payload act).2.storage = v.storage := by
  cases payload with
  | capability name inner =>
    simp only [delegate]
    cases v.handlers.lookup name <;> rfl
  | _ => rfl

/-! ## Commands -/

/-- What an action returned, and the vault with the new ledger. -/
def settle (v : Vault H) : Except Refusal (Int × Ledger) → Except VaultFault Value × Vault H
  | .ok (n, ledger) => (.ok (.int n), { v with ledger := ledger })
  | .error r => (.error (.refused r), v)

/-- Who receives what a command gives: the recipient, unless it is empty or
    missing, else the sender. -/
def receiver (sender : Text) : Option Text → Text
  | some r => if r.isEmpty then sender else r
  | none => sender

/-- Carries out a command of a sender who attached funds. -/
def perform [Handler H] (v : Vault H) (c : Command) (sender : Text) (funds : Int) :
    Except VaultFault Value × Vault H :=
  match c with
  | .deposit amount recipient =>
    v.settle (v.ledger.deposit v.terms amount funds (receiver sender recipient))
  | .redeem amount recipient =>
    v.settle (v.ledger.redeem amount funds sender (receiver sender recipient))
  | .extension payload => v.delegate payload fun h m => Handler.execute h m sender funds

/-- Carries out the command that a message states. -/
def execute [Handler H] (v : Vault H) (m : Message) (sender : Text) (funds : Int) :
    Except VaultFault Value × Vault H :=
  match Command.ofMessage? m with
  | some c => v.perform c sender funds
  | none => (.error (.notCommand m.inspect), v)

/-- A command that fails leaves the ledger as it is. -/
theorem execute_error_ledger [Handler H] {v : Vault H} {m : Message} {sender : Text}
    {funds : Int} {f : VaultFault} (h : (v.execute m sender funds).1 = .error f) :
    (v.execute m sender funds).2.ledger = v.ledger := by
  -- A refused action is dropped together with its ledger.
  have settled : ∀ a, (v.settle a).1 = .error f → (v.settle a).2.ledger = v.ledger := by
    intro a ha
    cases a with
    | ok p => cases ha
    | error r => rfl
  simp only [execute] at h ⊢
  cases hc : Command.ofMessage? m with
  | none => rfl
  | some c =>
    simp only [hc] at h ⊢
    cases c with
    | deposit amount recipient => exact settled _ h
    | redeem amount recipient => exact settled _ h
    | extension payload => exact delegate_ledger ..

/-- No command touches the storage. -/
theorem execute_storage [Handler H] (v : Vault H) (m : Message) (sender : Text) (funds : Int) :
    (v.execute m sender funds).2.storage = v.storage := by
  have settled : ∀ a, (v.settle a).2.storage = v.storage := by
    intro a
    cases a <;> rfl
  simp only [execute]
  cases Command.ofMessage? m with
  | none => rfl
  | some c =>
    cases c with
    | deposit amount recipient => exact settled _
    | redeem amount recipient => exact settled _
    | extension payload => exact delegate_storage ..

/-- The line that a log has for a command that was refused. -/
def refusalLine (m : Message) (sender : Text) (why : Text) : Text :=
  "Rejected " ++ m.tag?.getD [] ++ " from " ++ sender ++ ": " ++ why

/-- What the log has after a command: a line if it was refused. -/
def logLines (m : Message) (sender : Text) (outcome : Except VaultFault Value) : List Text :=
  match outcome with
  | .error f => (f.refusal?.map (refusalLine m sender)).toList
  | .ok _ => []

/-! ## Queries -/

/-- What the storage says about the standard. -/
def storedInfo (v : Vault H) : Checked Value :=
  Shape.standardInfo.loadText ((v.rawQuery standardInfoKey).bind Json.parseStrictBytes?)

/-- A limit as a value; without a limit it is null. -/
def limitValue : Option Int → Value
  | some n => .int n
  | none => .null

/-- Answers a question. -/
def ask [Handler H] (v : Vault H) : Question → Except VaultFault Value × Vault H
  | .standardInfo => (v.storedInfo.mapError .badStorage, v)
  | .info => (.ok (.vaultInfo v.info), v)
  | .previewDeposit amount => (.ok (.int (v.ledger.previewDeposit v.terms amount)), v)
  | .previewRedeem amount => (.ok (.int (v.ledger.previewRedeem amount)), v)
  | .maxDeposit recipient => (.ok (limitValue (v.ledger.maxDeposit v.terms recipient)), v)
  | .maxRedeem owner => (.ok (.int (v.ledger.maxRedeem owner)), v)
  | .totalAssets => (.ok (.int v.ledger.totalAssets), v)
  | .totalSupply => (.ok (.int v.ledger.totalSupply), v)
  | .convertToShares amount => (.ok (.int (v.ledger.sharesFor amount)), v)
  | .convertToAssets amount => (.ok (.int (v.ledger.assetsFor amount)), v)
  | .extension payload => v.delegate payload Handler.query

/-- Answers the question that a message states. -/
def query [Handler H] (v : Vault H) (m : Message) : Except VaultFault Value × Vault H :=
  match Question.ofMessage? m with
  | some q => v.ask q
  | none => (.error (.notQuestion m.inspect), v)

/-- No query touches the ledger. -/
theorem query_ledger [Handler H] (v : Vault H) (m : Message) :
    (v.query m).2.ledger = v.ledger := by
  simp only [query]
  cases Question.ofMessage? m with
  | none => rfl
  | some q =>
    cases q with
    | extension payload => exact delegate_ledger ..
    | _ => rfl

/-- No query touches the storage. -/
theorem query_storage [Handler H] (v : Vault H) (m : Message) :
    (v.query m).2.storage = v.storage := by
  simp only [query]
  cases Question.ofMessage? m with
  | none => rfl
  | some q =>
    cases q with
    | extension payload => exact delegate_storage ..
    | _ => rfl

/-! ## From the outside -/

/-- What came of a command from the outside. -/
structure Executed (H : Type) where
  outcome : Except VaultFault Value
  vault : Vault H
  /-- The lines of the log. -/
  log : List Text

/-- Carries out a command and logs its refusal. -/
def executeLogged [Handler H] (v : Vault H) (m : Message) (sender : Text) (funds : Int) :
    Executed H :=
  let (outcome, vault) := v.execute m sender funds
  { outcome := outcome, vault := vault, log := logLines m sender outcome }

/-- Carries out the command that a JSON value writes. -/
def executeWire [Handler H] (v : Vault H) (data : Json) (sender : Text) (funds : Int) :
    Executed H :=
  match v.commands.decode data with
  | .ok m => v.executeLogged m sender funds
  | .error f => { outcome := .error (.decode f), vault := v, log := [] }

/-- The text of the answer to the query that a JSON value writes. -/
def queryWire [Handler H] (v : Vault H) (data : Json) : Except VaultFault Text × Vault H :=
  match v.questions.decode data with
  | .error f => (.error (.decode f), v)
  | .ok m =>
    -- A handler may have changed its state even where the answer is a fault.
    match v.query m with
    | (.error f, v') => (.error f, v')
    | (.ok value, v') => ((m.encodeResponse value).mapError .response, v')

end Vault

end ShareVault
