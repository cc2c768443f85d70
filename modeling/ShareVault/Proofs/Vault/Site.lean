import ShareVault.Proofs.Vault.Run

/-! # A vault among other things

    A vault is built from the registry as it is at that time, and lives on while more
    capabilities are registered. It takes commands and queries from the outside; in
    between its accounts, its terms and the state of its handlers may change in any
    way, which covers all that a handler can do to them, and its storage may be
    written.

    Whatever happens, the unions and the names of the handlers are those that the
    vault was built with, and they still fit to the registry.

    ## Events
    - `register`: somebody calls to register a capability;
    - `command`, `query`: somebody sends a JSON value;
    - `work`, `store`: the vault changes otherwise.

    Main statements:
    - `IsBuilt.after`: what a vault is built with fits to the registry at any time;
    - `storage_after`: only writing to the storage changes it.
-/

namespace ShareVault

/-- A vault, and the registry that it was built from as it is now. -/
structure Site (H : Type) where
  registry : Registry
  vault : Vault H

/-- What happens at a site. -/
inductive Event (H : Type) where
  /-- Somebody calls to register a capability. -/
  | register (c : Capability)
  /-- Somebody sends a command with some funds attached. -/
  | command (data : Json) (sender : Text) (funds : Int)
  /-- Somebody sends a query. -/
  | query (data : Json)
  /-- Terms, accounts and the states of handlers change. -/
  | work (terms : Terms) (ledger : Ledger) (states : Text → H → H)
  /-- The storage is written. -/
  | store (storage : List (Bytes × Bytes))

namespace Vault

section Keeps

variable {H : Type}

/-! ## What a vault keeps -/

/-- The later vault has the unions, the storage and the names of the handlers of the
    earlier one. -/
structure Keeps (v w : Vault H) : Prop where
  commands : w.commands = v.commands
  questions : w.questions = v.questions
  storage : w.storage = v.storage
  names : w.handlers.map Prod.fst = v.handlers.map Prod.fst

theorem Keeps.refl (v : Vault H) : v.Keeps v := ⟨rfl, rfl, rfl, rfl⟩

theorem keeps_delegate (v : Vault H) (payload : Message)
    (work : H → Message → Except HandlerFault Value × H) :
    v.Keeps (v.delegate payload work).2 := by
  cases payload with
  | capability name inner =>
    simp only [delegate]
    cases v.handlers.lookup name with
    | none => exact .refl v
    | some h => exact ⟨rfl, rfl, rfl, names_setHandler ..⟩
  | _ => exact .refl v

theorem keeps_settle (v : Vault H) (outcome : Except Refusal (Int × Ledger)) :
    v.Keeps (v.settle outcome).2 := by
  obtain ⟨ledger, h⟩ := v.settle_frame outcome
  rw [h]
  exact ⟨rfl, rfl, rfl, rfl⟩

variable [Handler H]

theorem keeps_execute (v : Vault H) (m : Message) (sender : Text) (funds : Int) :
    v.Keeps (v.execute m sender funds).2 := by
  unfold execute
  cases Command.ofMessage? m with
  | none => exact .refl v
  | some c =>
    cases c with
    | deposit amount recipient => exact v.keeps_settle _
    | redeem amount recipient => exact v.keeps_settle _
    | extension payload => exact v.keeps_delegate payload _

theorem keeps_query (v : Vault H) (m : Message) : v.Keeps (v.query m).2 := by
  unfold query
  cases Question.ofMessage? m with
  | none => exact .refl v
  | some q =>
    cases q with
    | extension payload => exact v.keeps_delegate payload _
    | _ => exact .refl v

/-- A value that writes a command does what the command does. -/
theorem executeWire_of_decode {v : Vault H} {data : Json} {m : Message}
    (h : v.commands.decode data = .ok m) (sender : Text) (funds : Int) :
    v.executeWire data sender funds = v.executeLogged m sender funds := by
  unfold executeWire
  rw [h]

/-- A value that writes a query has the text of the answer to the query, if there is
    one. -/
theorem queryWire_of_decode {v : Vault H} {data : Json} {m : Message}
    (h : v.questions.decode data = .ok m) :
    v.queryWire data
      = ((v.query m).1.bind fun value => (m.encodeResponse value).mapError .response,
          (v.query m).2) := by
  unfold queryWire
  rcases hquery : v.query m with ⟨outcome, w⟩
  simp only [h, hquery]
  cases outcome with
  | error f => rfl
  | ok value => rfl

theorem keeps_executeWire (v : Vault H) (data : Json) (sender : Text) (funds : Int) :
    v.Keeps (v.executeWire data sender funds).vault := by
  cases hdecode : v.commands.decode data with
  | error f =>
    simp only [executeWire, hdecode]
    exact .refl v
  | ok m =>
    rw [executeWire_of_decode hdecode]
    exact v.keeps_execute m sender funds

theorem keeps_queryWire (v : Vault H) (data : Json) : v.Keeps (v.queryWire data).2 := by
  cases hdecode : v.questions.decode data with
  | error f =>
    simp only [queryWire, hdecode]
    exact .refl v
  | ok m =>
    rw [queryWire_of_decode hdecode]
    exact v.keeps_query m

end Keeps

end Vault

namespace Site

variable {H : Type} [Handler H]

/-! ## One event -/

/-- The site after an event. -/
def next (s : Site H) : Event H → Site H
  | .register c => { s with registry := s.registry.enroll c }
  | .command data sender funds => { s with vault := (s.vault.executeWire data sender funds).vault }
  | .query data => { s with vault := (s.vault.queryWire data).2 }
  | .work terms ledger states =>
    { s with vault := { s.vault with
        terms := terms, ledger := ledger
        handlers := s.vault.handlers.map fun p => (p.1, states p.1 p.2) } }
  | .store storage => { s with vault := { s.vault with storage := storage } }

/-- The site after some events, one after the other. -/
def after (s : Site H) : List (Event H) → Site H
  | [] => s
  | e :: events => (s.next e).after events

/-- The events that do not write to the storage. -/
def SparesStorage : Event H → Prop
  | .store _ => False
  | _ => True

theorem growsTo_next (s : Site H) (e : Event H) : s.registry.GrowsTo (s.next e).registry := by
  cases e with
  | register c => exact s.registry.growsTo_enroll c
  | _ => exact .refl s.registry

/-- The registry only grows. -/
theorem growsTo_after (s : Site H) (events : List (Event H)) :
    s.registry.GrowsTo (s.after events).registry := by
  induction events generalizing s with
  | nil => exact .refl s.registry
  | cons e events ih => exact (s.growsTo_next e).trans (ih (s.next e))

/-- Nothing but a write to the storage changes what a vault keeps. -/
theorem keeps_next (s : Site H) {e : Event H} (he : SparesStorage e) :
    s.vault.Keeps (s.next e).vault := by
  cases e with
  | register c => exact .refl s.vault
  | command data sender funds => exact s.vault.keeps_executeWire data sender funds
  | query data => exact s.vault.keeps_queryWire data
  | work terms ledger states =>
    refine ⟨rfl, rfl, rfl, ?_⟩
    show (s.vault.handlers.map _).map Prod.fst = s.vault.handlers.map Prod.fst
    rw [List.map_map]
    rfl
  | store storage => exact absurd he id

/-! ## What a vault is built with -/

/-- The vault has handlers for some names, and the unions of its families are those
    that the registry has for these names. -/
structure IsBuilt (s : Site H) (names : List Text) : Prop where
  known : ∀ name ∈ names, name ∈ s.registry.names
  commands : s.registry.union .execute names = .ok s.vault.commands
  questions : s.registry.union .query names = .ok s.vault.questions
  names : s.vault.handlers.map Prod.fst = names

variable {s : Site H} {names : List Text}

/-- Registrations leave the unions over names that are known, and all else leaves the
    unions of the vault. -/
theorem IsBuilt.next (hs : s.IsBuilt names) (e : Event H) : (s.next e).IsBuilt names := by
  have hgrows := s.growsTo_next e
  have hvault : (s.next e).vault.commands = s.vault.commands
      ∧ (s.next e).vault.questions = s.vault.questions
      ∧ (s.next e).vault.handlers.map Prod.fst = s.vault.handlers.map Prod.fst := by
    by_cases he : SparesStorage e
    · have hkeeps := s.keeps_next he
      exact ⟨hkeeps.commands, hkeeps.questions, hkeeps.names⟩
    · cases e with
      | store storage => exact ⟨rfl, rfl, rfl⟩
      | _ => exact absurd trivial he
  obtain ⟨hcommands, hquestions, hnames⟩ := hvault
  refine ⟨?_, ?_, ?_, ?_⟩
  · intro name hname
    exact hgrows.mem_names (hs.known name hname)
  · rw [hgrows.union_eq .execute hs.known, hcommands]
    exact hs.commands
  · rw [hgrows.union_eq .query hs.known, hquestions]
    exact hs.questions
  · rw [hnames]
    exact hs.names

theorem IsBuilt.after (hs : s.IsBuilt names) (events : List (Event H)) :
    (s.after events).IsBuilt names := by
  induction events generalizing s with
  | nil => exact hs
  | cons e events ih => exact ih (hs.next e)

omit [Handler H] in
/-- A new vault is built with the names of its handlers. -/
theorem isBuilt_of_create {r : Registry} {baseToken vaultToken : Token} {terms : Terms}
    {version : Json} {handlers : List (Text × H)} {v : Vault H}
    (h : Vault.create r baseToken vaultToken terms version handlers = .ok v) :
    (Site.mk r v).IsBuilt (handlers.map Prod.fst) := by
  obtain ⟨-, info, commands, questions, text, hinfo, hcommands, hquestions, -, rfl⟩ :=
    Vault.create_eq_ok h
  have henabled := Registry.enabled_of_standardInfo hinfo
  refine ⟨(Registry.enabled_eq_ok.mp henabled).1, ?_, ?_, rfl⟩
  · rw [← Registry.union_of_enabled .execute henabled]
    exact hcommands
  · rw [← Registry.union_of_enabled .query henabled]
    exact hquestions

/-! ## The storage -/

/-- The storage stays as it is until something is written to it. -/
theorem storage_after (s : Site H) {events : List (Event H)}
    (hevents : ∀ e ∈ events, SparesStorage e) :
    (s.after events).vault.storage = s.vault.storage := by
  induction events generalizing s with
  | nil => rfl
  | cons e events ih =>
    have hstep := (s.keeps_next (hevents e (List.mem_cons_self ..))).storage
    unfold after
    rw [ih (s.next e) fun q hq => hevents q (List.mem_cons_of_mem e hq), hstep]

end Site

end ShareVault
