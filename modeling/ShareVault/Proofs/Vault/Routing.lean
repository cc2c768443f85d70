import ShareVault.Proofs.Capability.Payload
import ShareVault.Proofs.Vault.Site

/-! # Where payloads for capabilities go

    Which capabilities a vault supports is said twice: by the unions that it decodes
    messages with, and by the names under which it looks its handlers up. The two
    agree at any time, so a payload that is decoded has a handler, and that is the one
    of the capability that the payload names. What is not decoded comes to no handler.

    The fault that a capability is not supported is then that of the decoder alone, and
    there is no way from the outside to the fault of a missing handler.

    Main statements:
    - `raises_executeWire_iff`, `raises_queryWire_iff`: a vault has that fault where its
      decoder has it;
    - `commandDelivered`, `queryDelivered`: who gets a payload that is decoded;
    - `extensions_routed`: both, at any time;
    - `raises_relayedCommand`: a capability that is a table of capabilities itself.
-/

namespace ShareVault

/-! ## The fault -/

/-- The kind of a refusal because a capability is not supported. -/
def HandlerFault.unsupportedKind : Text := "UnsupportedExtension"

/-- The fault is that a capability is not supported, wherever it comes from. -/
def VaultFault.IsUnsupported (c : Text) : VaultFault → Prop
  | .decode (.unsupported name) => name = c
  | .unsupported name => name = c
  | .handler (.refused kind why) =>
    kind = HandlerFault.unsupportedKind ∧ why = (DecodeFault.unsupported c).message
  | _ => False

/-- What is asked of a vault raises that a capability is not supported. -/
def Raises {α : Type} (c : Text) (outcome : Except VaultFault α) : Prop :=
  ∃ f, outcome = .error f ∧ f.IsUnsupported c

/-- A handler that does not refuse anything because of a capability. -/
def Handler.IsQuiet {H : Type} [Handler H] (h : H) : Prop :=
  ∀ m why, (Handler.query h m).1 ≠ .error (.refused HandlerFault.unsupportedKind why)
    ∧ ∀ sender funds,
      (Handler.execute h m sender funds).1 ≠ .error (.refused HandlerFault.unsupportedKind why)

theorem KeeperList.isQuiet (l : KeeperList) : Handler.IsQuiet l := by
  intro m why
  refine ⟨?_, ?_⟩
  · intro h
    have hfault : l.query m = .error (.refused HandlerFault.unsupportedKind why) := h
    unfold KeeperList.query at hfault
    split at hfault
    · cases hfault
    · split at hfault
      · cases hfault
      · cases hfault
  · intro sender funds h
    have hfault : (l.execute m).1 = .error (.refused HandlerFault.unsupportedKind why) := h
    simp only [KeeperList.execute] at hfault
    split at hfault
    · cases hfault
    · split at hfault
      · split at hfault
        · cases hfault
        · cases hfault
      · split at hfault
        · cases hfault
        · cases hfault

section Raising

variable {α : Type} {c : Text}

theorem not_raises_ok (x : α) : ¬ Raises c (.ok x) := by
  intro h
  obtain ⟨f, hf, -⟩ := h
  cases hf

theorem not_raises_error {f : VaultFault} (h : ¬ f.IsUnsupported c) :
    ¬ Raises c (.error f : Except VaultFault α) := by
  intro hraises
  obtain ⟨g, hg, hunsupported⟩ := hraises
  cases hg
  exact h hunsupported

/-- Faults that are other ones stay so. -/
theorem not_raises_mapError {ε : Type} {g : ε → VaultFault} (h : ∀ e, ¬ (g e).IsUnsupported c)
    (outcome : Except ε α) : ¬ Raises c (outcome.mapError g) := by
  cases outcome with
  | ok x => exact not_raises_ok x
  | error e => exact not_raises_error (h e)

theorem raises_decode_iff {f : DecodeFault} :
    Raises c (.error (.decode f) : Except VaultFault α) ↔ f = .unsupported c := by
  constructor
  · intro h
    obtain ⟨g, hg, hunsupported⟩ := h
    cases hg
    cases f with
    | malformed why => exact absurd hunsupported id
    | unsupported name => rw [show name = c from hunsupported]
  · intro h
    subst h
    exact ⟨_, rfl, rfl⟩

/-- What comes from a quiet handler does not raise it. -/
theorem not_raises_handler {outcome : Except HandlerFault α}
    (h : ∀ why, outcome ≠ .error (.refused HandlerFault.unsupportedKind why)) :
    ¬ Raises c (outcome.mapError VaultFault.handler) := by
  intro hraises
  obtain ⟨f, hf, hunsupported⟩ := hraises
  obtain ⟨e, he, rfl⟩ := Except.mapError_eq_error.mp hf
  cases e with
  | refused kind why =>
    obtain ⟨rfl, -⟩ := hunsupported
    exact h why he
  | _ => exact hunsupported

/-- What goes on with a value raises it if either part does. -/
theorem not_raises_bind {β : Type} {outcome : Except VaultFault α} {rest : α → Except VaultFault β}
    (h : ¬ Raises c outcome) (hrest : ∀ x, ¬ Raises c (rest x)) :
    ¬ Raises c (outcome.bind rest) := by
  cases outcome with
  | error f => exact not_raises_error fun hunsupported => h ⟨f, rfl, hunsupported⟩
  | ok x => exact hrest x

end Raising

/-! ## Messages that are no payloads -/

theorem Command.ofMessage?_variant (w : Variant) (values : List Value) (payload : Message) :
    ofMessage? (.variant w values) ≠ some (.extension payload) := by
  intro h
  simp only [ofMessage?] at h
  split at h
  · split at h
    · cases h
    · cases h
  · split at h
    · cases h
    · cases h
  · cases h

theorem Question.ofMessage?_variant (w : Variant) (values : List Value) (payload : Message) :
    ofMessage? (.variant w values) ≠ some (.extension payload) := by
  intro h
  simp only [ofMessage?] at h
  split at h
  · unfold ofAmount? at h
    repeat (split at h; · cases h)
    cases h
  · unfold ofAddress? at h
    repeat (split at h; · cases h)
    cases h
  · unfold ofName? at h
    repeat (split at h; · cases h)
    cases h
  · cases h

namespace Vault

variable {H : Type} [Handler H] {v : Vault H} {c : Text}

/-- A vault does not raise it for the variants of its own families. -/
theorem not_raises_execute_variant (v : Vault H) (w : Variant) (values : List Value)
    (sender : Text) (funds : Int) : ¬ Raises c (v.execute (.variant w values) sender funds).1 := by
  have hsettle : ∀ outcome, ¬ Raises c (v.settle outcome).1 := by
    intro outcome
    cases outcome with
    | ok p => exact not_raises_ok _
    | error r => exact not_raises_error id
  unfold execute
  cases hc : Command.ofMessage? (.variant w values) with
  | none => exact not_raises_error id
  | some command =>
    cases command with
    | deposit amount recipient => exact hsettle _
    | redeem amount recipient => exact hsettle _
    | extension payload => exact absurd hc (Command.ofMessage?_variant w values payload)

theorem not_raises_query_variant (v : Vault H) (w : Variant) (values : List Value) :
    ¬ Raises c (v.query (.variant w values)).1 := by
  unfold query
  cases hq : Question.ofMessage? (.variant w values) with
  | none => exact not_raises_error id
  | some q =>
    cases q with
    | extension payload => exact absurd hq (Question.ofMessage?_variant w values payload)
    | standardInfo => exact not_raises_mapError (fun _ => id) _
    | _ => exact not_raises_ok _

/-! ## Delivery -/

/-- Every handler that the vault has is quiet. -/
def HasQuietHandlers (v : Vault H) : Prop :=
  ∀ name h, v.handlers.lookup name = some h → Handler.IsQuiet h

omit [Handler H] in
/-- The later vault is the earlier one but for one handler, which has a new state. -/
structure Advances (v w : Vault H) (name : Text) (state : H) : Prop where
  /-- The handler of the name has the new state. -/
  moved : w.handlers.lookup name = some state
  /-- Every other handler has the state that it had. -/
  others : ∀ other, other ≠ name → w.handlers.lookup other = v.handlers.lookup other
  /-- There are the same handlers in the same order. -/
  names : w.handlers.map Prod.fst = v.handlers.map Prod.fst
  /-- Nothing else has changed. -/
  kept : w = { v with handlers := w.handlers }

omit [Handler H] in
theorem advances_setHandler {name : Text} {h : H} (hlookup : v.handlers.lookup name = some h)
    (state : H) :
    v.Advances { v with handlers := setHandler name state v.handlers } name state := by
  refine ⟨lookup_setHandler_self hlookup state, ?_, names_setHandler .., rfl⟩
  intro other hother
  exact lookup_setHandler_of_ne hother state v.handlers

/-- A command goes to a handler, whoever sends it: what it raises or returns is what
    the handler does, and only the state of this handler changes. -/
def DeliversCommand (v : Vault H) (data : Json) (name : Text) (inner : Message) (h : H) : Prop :=
  ∀ sender funds,
    (v.executeWire data sender funds).outcome
        = (Handler.execute h inner sender funds).1.mapError .handler
      ∧ v.Advances (v.executeWire data sender funds).vault name
          (Handler.execute h inner sender funds).2

/-- A query goes to a handler: what it raises is what the handler raises, what the
    handler answers is encoded as the answer to the query, and only the state of this
    handler changes. -/
def DeliversQuery (v : Vault H) (data : Json) (name : Text) (inner : Message) (h : H) : Prop :=
  (v.queryWire data).1
      = (((Handler.query h inner).1.mapError .handler).bind fun value =>
          ((Message.extension .query (.capability name inner)).encodeResponse value).mapError
            .response)
    ∧ v.Advances (v.queryWire data).2 name (Handler.query h inner).2

omit [Handler H] in
theorem delegate_of_lookup {name : Text} {h : H} (hlookup : v.handlers.lookup name = some h)
    (inner : Message) (work : H → Message → Except HandlerFault Value × H) :
    (v.delegate (.capability name inner) work).1 = (work h inner).1.mapError .handler
      ∧ v.Advances (v.delegate (.capability name inner) work).2 name (work h inner).2 := by
  simp only [delegate, hlookup]
  exact ⟨trivial, advances_setHandler hlookup _⟩

theorem deliversCommand_of_decode {data : Json} {name : Text} {inner : Message} {h : H}
    (hdecode : v.commands.decode data = .ok (.extension .execute (.capability name inner)))
    (hlookup : v.handlers.lookup name = some h) : v.DeliversCommand data name inner h := by
  intro sender funds
  rw [executeWire_of_decode hdecode]
  exact delegate_of_lookup hlookup inner fun g m => Handler.execute g m sender funds

theorem deliversQuery_of_decode {data : Json} {name : Text} {inner : Message} {h : H}
    (hdecode : v.questions.decode data = .ok (.extension .query (.capability name inner)))
    (hlookup : v.handlers.lookup name = some h) : v.DeliversQuery data name inner h := by
  obtain ⟨hanswer, hadvances⟩ := delegate_of_lookup hlookup inner Handler.query
  unfold DeliversQuery
  rw [queryWire_of_decode hdecode]
  refine ⟨?_, hadvances⟩
  show Except.bind (v.delegate (.capability name inner) Handler.query).1 _ = _
  rw [hanswer]

end Vault

namespace Site

variable {H : Type} [Handler H] {s : Site H} {names : List Text}

omit [Handler H] in
theorem exists_lookup_of_mem {handlers : List (Text × H)} {name : Text}
    (h : name ∈ handlers.map Prod.fst) : ∃ g, handlers.lookup name = some g := by
  cases hlookup : handlers.lookup name with
  | some g => exact ⟨g, rfl⟩
  | none =>
    obtain ⟨p, hp, rfl⟩ := List.mem_map.mp h
    have hne := List.lookup_eq_none_iff.mp hlookup p hp
    exact absurd rfl (bne_iff_ne.mp hne)

omit [Handler H] in
/-- A payload that either family of a vault decodes is for a capability with a handler. -/
theorem IsBuilt.exists_handler (hs : s.IsBuilt names) {f g : Family}
    {codec : TaggedUnion Message} (hcodec : s.registry.union f names = .ok codec) {data : Json}
    {m : Message} (hm : codec.decode data = .ok (.extension g m)) :
    g = f ∧ ∃ k payload inner h, s.registry.Addresses names data k payload
      ∧ (k.union f).decode payload = .ok inner ∧ m = .capability k.name inner
      ∧ s.vault.handlers.lookup k.name = some h := by
  rcases Registry.message_of_decode hcodec hm with ⟨w, values, heq⟩ | hpayload
  · cases heq
  · obtain ⟨k, payload, inner, haddresses, hinner, heq⟩ := hpayload
    cases heq
    have hname : k.name ∈ s.vault.handlers.map Prod.fst := by
      rw [hs.names]
      exact haddresses.wanted
    obtain ⟨h, hlookup⟩ := exists_lookup_of_mem hname
    exact ⟨rfl, k, payload, inner, h, haddresses, hinner, rfl, hlookup⟩

/-- A payload in a command that a vault decodes has a handler, which gets it. -/
theorem IsBuilt.commandDelivered (hs : s.IsBuilt names) {data : Json} {f : Family} {m : Message}
    (hm : s.vault.commands.decode data = .ok (.extension f m)) :
    f = .execute ∧ ∃ k payload inner h, s.registry.Addresses names data k payload
      ∧ k.execute.decode payload = .ok inner ∧ m = .capability k.name inner
      ∧ s.vault.handlers.lookup k.name = some h
      ∧ s.vault.DeliversCommand data k.name inner h := by
  obtain ⟨rfl, k, payload, inner, h, haddresses, hinner, rfl, hlookup⟩ :=
    hs.exists_handler hs.commands hm
  exact ⟨rfl, k, payload, inner, h, haddresses, hinner, rfl, hlookup,
    Vault.deliversCommand_of_decode hm hlookup⟩

theorem IsBuilt.queryDelivered (hs : s.IsBuilt names) {data : Json} {f : Family} {m : Message}
    (hm : s.vault.questions.decode data = .ok (.extension f m)) :
    f = .query ∧ ∃ k payload inner h, s.registry.Addresses names data k payload
      ∧ k.query.decode payload = .ok inner ∧ m = .capability k.name inner
      ∧ s.vault.handlers.lookup k.name = some h
      ∧ s.vault.DeliversQuery data k.name inner h := by
  obtain ⟨rfl, k, payload, inner, h, haddresses, hinner, rfl, hlookup⟩ :=
    hs.exists_handler hs.questions hm
  exact ⟨rfl, k, payload, inner, h, haddresses, hinner, rfl, hlookup,
    Vault.deliversQuery_of_decode hm hlookup⟩

/-- What comes of a command is the fault of the decoder, what comes of a variant of the
    family, or what a handler does. -/
theorem IsBuilt.executeWire_cases (hs : s.IsBuilt names) (data : Json) (sender : Text)
    (funds : Int) :
    (∃ f, s.vault.commands.decode data = .error f
        ∧ (s.vault.executeWire data sender funds).outcome = .error (.decode f))
      ∨ (∃ m, s.vault.commands.decode data = .ok m) ∧
        ((∃ w values, (s.vault.executeWire data sender funds).outcome
            = (s.vault.execute (.variant w values) sender funds).1)
          ∨ ∃ name inner h, s.vault.handlers.lookup name = some h
            ∧ (s.vault.executeWire data sender funds).outcome
              = (Handler.execute h inner sender funds).1.mapError .handler) := by
  cases hdecode : s.vault.commands.decode data with
  | error f =>
    refine .inl ⟨f, rfl, ?_⟩
    simp only [Vault.executeWire, hdecode]
  | ok m =>
    refine .inr ⟨⟨m, rfl⟩, ?_⟩
    rcases Registry.message_of_decode hs.commands hdecode with ⟨w, values, rfl⟩ | hpayload
    · refine .inl ⟨w, values, ?_⟩
      rw [Vault.executeWire_of_decode hdecode]
      rfl
    · obtain ⟨_, _, _, -, -, rfl⟩ := hpayload
      obtain ⟨-, k, payload, inner, h, -, -, -, hlookup, hdelivers⟩ := hs.commandDelivered hdecode
      exact .inr ⟨k.name, inner, h, hlookup, (hdelivers sender funds).1⟩

theorem IsBuilt.queryWire_cases (hs : s.IsBuilt names) (data : Json) :
    (∃ f, s.vault.questions.decode data = .error f
        ∧ (s.vault.queryWire data).1 = .error (.decode f))
      ∨ ∃ m, s.vault.questions.decode data = .ok m ∧
        ∃ answer : Except VaultFault Value,
          (s.vault.queryWire data).1
            = answer.bind (fun value => (m.encodeResponse value).mapError .response)
          ∧ ((∃ w values, answer = (s.vault.query (.variant w values)).1)
            ∨ ∃ name inner h, s.vault.handlers.lookup name = some h
              ∧ answer = (Handler.query h inner).1.mapError .handler) := by
  cases hdecode : s.vault.questions.decode data with
  | error f =>
    refine .inl ⟨f, rfl, ?_⟩
    simp only [Vault.queryWire, hdecode]
  | ok m =>
    refine .inr ⟨m, rfl, ?_⟩
    rcases Registry.message_of_decode hs.questions hdecode with ⟨w, values, rfl⟩ | hpayload
    · refine ⟨_, ?_, .inl ⟨w, values, rfl⟩⟩
      rw [Vault.queryWire_of_decode hdecode]
    · obtain ⟨_, _, _, -, -, rfl⟩ := hpayload
      obtain ⟨-, k, payload, inner, h, -, -, heq, hlookup, hdelivers⟩ := hs.queryDelivered hdecode
      refine ⟨_, ?_, .inr ⟨k.name, inner, h, hlookup, rfl⟩⟩
      rw [hdelivers.1, heq]

/-- A vault raises that a capability is not supported where its decoder does, and
    there alone: what is decoded has a handler, and that is quiet. -/
theorem IsBuilt.raises_executeWire_iff (hs : s.IsBuilt names)
    (hquiet : s.vault.HasQuietHandlers) {data : Json} {c : Text} (sender : Text) (funds : Int) :
    Raises c (s.vault.executeWire data sender funds).outcome
      ↔ s.vault.commands.decode data = .error (.unsupported c) := by
  rcases hs.executeWire_cases data sender funds with ⟨f, hdecode, houtcome⟩ | ⟨hdecode, hdone⟩
  · rw [houtcome, hdecode, raises_decode_iff, Except.error.injEq]
  · obtain ⟨m, hm⟩ := hdecode
    rw [hm]
    refine iff_of_false ?_ (by intro h; cases h)
    rcases hdone with ⟨w, values, houtcome⟩ | ⟨name, inner, h, hlookup, houtcome⟩
    · rw [houtcome]
      exact s.vault.not_raises_execute_variant w values sender funds
    · rw [houtcome]
      apply not_raises_handler
      intro why
      exact (hquiet name h hlookup inner why).2 sender funds

theorem IsBuilt.raises_queryWire_iff (hs : s.IsBuilt names)
    (hquiet : s.vault.HasQuietHandlers) {data : Json} {c : Text} :
    Raises c (s.vault.queryWire data).1
      ↔ s.vault.questions.decode data = .error (.unsupported c) := by
  rcases hs.queryWire_cases data with ⟨f, hdecode, houtcome⟩ | ⟨m, hdecode, answer, houtcome, hdone⟩
  · rw [houtcome, hdecode, raises_decode_iff, Except.error.injEq]
  · rw [hdecode, houtcome]
    refine iff_of_false ?_ (by intro h; cases h)
    refine not_raises_bind ?_ fun value => not_raises_mapError (fun _ => id) _
    rcases hdone with ⟨w, values, hanswer⟩ | ⟨name, inner, h, hlookup, hanswer⟩
    · rw [hanswer]
      exact s.vault.not_raises_query_variant w values
    · rw [hanswer]
      apply not_raises_handler
      intro why
      exact (hquiet name h hlookup inner why).1

/-- A command never misses the handler that it is for, whatever the handlers do. -/
theorem IsBuilt.executeWire_ne_unsupported (hs : s.IsBuilt names) (data : Json) (sender : Text)
    (funds : Int) (c : Text) :
    (s.vault.executeWire data sender funds).outcome ≠ .error (.unsupported c) := by
  rcases hs.executeWire_cases data sender funds with ⟨f, -, houtcome⟩ | ⟨-, hdone⟩
  · intro h
    cases houtcome.symm.trans h
  · rcases hdone with ⟨w, values, houtcome⟩ | ⟨name, inner, h, -, houtcome⟩
    · intro h
      rw [houtcome] at h
      exact s.vault.not_raises_execute_variant w values sender funds ⟨_, h, rfl⟩
    · intro hfault
      rw [houtcome] at hfault
      obtain ⟨e, -, he⟩ := Except.mapError_eq_error.mp hfault
      cases he

theorem IsBuilt.queryWire_ne_unsupported (hs : s.IsBuilt names) (data : Json) (c : Text) :
    (s.vault.queryWire data).1 ≠ .error (.unsupported c) := by
  rcases hs.queryWire_cases data with ⟨f, -, houtcome⟩ | ⟨m, -, answer, houtcome, hdone⟩
  · intro h
    cases houtcome.symm.trans h
  · intro hfault
    rw [houtcome] at hfault
    cases answer with
    | ok value =>
      obtain ⟨e, -, he⟩ := Except.mapError_eq_error.mp hfault
      cases he
    | error f =>
      cases hfault
      rcases hdone with ⟨w, values, hanswer⟩ | ⟨name, inner, h, -, hanswer⟩
      · exact s.vault.not_raises_query_variant w values ⟨_, hanswer.symm, rfl⟩
      · obtain ⟨e, -, he⟩ := Except.mapError_eq_error.mp hanswer.symm
        cases he

end Site

namespace Vault

variable {H : Type} [Handler H]

/-- Wherever a vault is found after it was built, with whatever was registered since: it
    raises that a capability is not supported for the values that name one without a
    handler. It has that fault for no others, unless a union of a capability is no union
    of variants but a table of capabilities itself. A payload that is decoded was decoded
    by the union of the capability that it names, and goes to the handler of that name.
    No call misses its handler. -/
theorem extensions_routed {r : Registry} {baseToken vaultToken : Token} {terms : Terms}
    {version : Json} {handlers : List (Text × H)} {built : Vault H}
    (hbuilt : create r baseToken vaultToken terms version handlers = .ok built)
    (events : List (Event H)) :
    let s := (Site.mk r built).after events
    let names := handlers.map Prod.fst
    (s.vault.HasQuietHandlers → (∀ k ∈ s.registry, k.name ∈ names → k.IsOfVariants) →
        ∀ data c,
          (∀ sender funds, Raises c (s.vault.executeWire data sender funds).outcome
            ↔ Family.IsUnwanted names c data)
          ∧ (Raises c (s.vault.queryWire data).1 ↔ Family.IsUnwanted names c data))
      ∧ (s.vault.HasQuietHandlers → ∀ data c,
        (∀ sender funds, Raises c (s.vault.executeWire data sender funds).outcome
          ↔ Family.IsUnwanted names c data ∨ s.registry.Forwards .execute names data c)
        ∧ (Raises c (s.vault.queryWire data).1
          ↔ Family.IsUnwanted names c data ∨ s.registry.Forwards .query names data c))
      ∧ (∀ data f m, s.vault.commands.decode data = .ok (.extension f m) →
        f = .execute ∧ ∃ k payload inner h, s.registry.Addresses names data k payload
          ∧ k.execute.decode payload = .ok inner ∧ m = .capability k.name inner
          ∧ s.vault.handlers.lookup k.name = some h
          ∧ s.vault.DeliversCommand data k.name inner h)
      ∧ (∀ data f m, s.vault.questions.decode data = .ok (.extension f m) →
        f = .query ∧ ∃ k payload inner h, s.registry.Addresses names data k payload
          ∧ k.query.decode payload = .ok inner ∧ m = .capability k.name inner
          ∧ s.vault.handlers.lookup k.name = some h
          ∧ s.vault.DeliversQuery data k.name inner h)
      ∧ ∀ data c,
        (∀ sender funds, (s.vault.executeWire data sender funds).outcome ≠ .error (.unsupported c))
        ∧ (s.vault.queryWire data).1 ≠ .error (.unsupported c) := by
  intro s names
  have hs : s.IsBuilt names := (Site.isBuilt_of_create hbuilt).after events
  have hraises : s.vault.HasQuietHandlers → ∀ data c,
      (∀ sender funds, Raises c (s.vault.executeWire data sender funds).outcome
        ↔ Family.IsUnwanted names c data ∨ s.registry.Forwards .execute names data c)
      ∧ (Raises c (s.vault.queryWire data).1
        ↔ Family.IsUnwanted names c data ∨ s.registry.Forwards .query names data c) := by
    intro hquiet data c
    refine ⟨?_, ?_⟩
    · intro sender funds
      rw [hs.raises_executeWire_iff hquiet, Registry.decode_union_eq_unsupported_iff hs.commands]
    · rw [hs.raises_queryWire_iff hquiet, Registry.decode_union_eq_unsupported_iff hs.questions]
  refine ⟨?_, hraises, ?_, ?_, ?_⟩
  · intro hquiet hvariants data c
    obtain ⟨hexecute, hquery⟩ := hraises hquiet data c
    have hnot := fun f => Registry.not_forwards_of_isOfVariants f hvariants data c
    refine ⟨?_, ?_⟩
    · intro sender funds
      rw [hexecute sender funds, or_iff_left (hnot .execute)]
    · rw [hquery, or_iff_left (hnot .query)]
  · intro data f m hm
    exact hs.commandDelivered hm
  · intro data f m hm
    exact hs.queryDelivered hm
  · intro data c
    exact ⟨fun sender funds => hs.executeWire_ne_unsupported data sender funds c,
      hs.queryWire_ne_unsupported data c⟩

/-- A capability is registered, and a keeper is added. -/
def keeperEvents : List (Event KeeperList) :=
  [.register pauseCapability, .command Family.addKeeperCommand "alice" 0]

/-- Something for a capability that was registered after the vault was built. -/
def pauseCommand : Json := .object [("vault_extension", .object [("pause", .int 5)])]

theorem extensions_routed_keepers : ∃ built : Vault KeeperList, createSample = .ok built
    ∧ Raises "lockup" (((Site.mk Registry.standard built).after keeperEvents).vault.executeWire
        Family.lockupCommand "bob" 0).outcome
    ∧ Raises "pause" (((Site.mk Registry.standard built).after keeperEvents).vault.executeWire
        pauseCommand "bob" 0).outcome
    ∧ ∃ h, ((Site.mk Registry.standard built).after keeperEvents).vault.handlers.lookup
          ("keeper" : Text) = some h
      ∧ ((Site.mk Registry.standard built).after keeperEvents).vault.DeliversCommand
        Family.addKeeperCommand "keeper"
        (.variant Capability.Keeper.addKeeper [.text "osmo1bob"]) h := by
  obtain ⟨built, hbuilt, hdecode⟩ : ∃ built, createSample = .ok built
      ∧ ((Site.mk Registry.standard built).after keeperEvents).vault.commands.decode
          Family.addKeeperCommand
        = .ok (.extension .execute (.capability "keeper"
          (.variant Capability.Keeper.addKeeper [.text "osmo1bob"]))) :=
    ⟨_, rfl, rfl⟩
  obtain ⟨hraises, -, hcommands, -⟩ := extensions_routed hbuilt keeperEvents
  have hvariants : ∀ k ∈ Registry.standard ++ [pauseCapability], k.name ∈ Family.keeperOnly →
      k.IsOfVariants := by
    intro k hk hname
    have hkeeper : k = Capability.keeper := by
      simp only [Registry.standard, List.cons_append, List.nil_append, List.mem_cons,
        List.not_mem_nil, or_false] at hk
      rcases hk with rfl | rfl | rfl
      · exact absurd hname (by decide)
      · rfl
      · exact absurd hname (by decide)
    rw [hkeeper]
    exact Capability.isOfVariants_keeper
  have hunwanted := hraises (fun _ h _ => KeeperList.isQuiet h) hvariants
  refine ⟨built, hbuilt, ?_, ?_, ?_⟩
  · exact ((hunwanted Family.lockupCommand "lockup").1 "bob" 0).mpr ⟨by decide, _, rfl⟩
  · exact ((hunwanted pauseCommand "pause").1 "bob" 0).mpr ⟨by decide, _, rfl⟩
  · obtain ⟨-, k, payload, inner, h, -, -, heq, hlookup, hdelivers⟩ := hcommands _ _ _ hdecode
    injection heq with hname hinner
    rw [← hname] at hlookup hdelivers
    rw [← hinner] at hdelivers
    exact ⟨h, hlookup, hdelivers⟩

/-- Something for a capability that the vault does not know, sent to a relay. -/
def relayedCommand : Json :=
  .object [("vault_extension", .object [("relay", .object [("pause", .int 5)])])]

/-- A capability may have the payloads for the keeper as its messages. Registered as a
    relay, it has a handler, and still its own union raises that another capability is not
    supported. So values that name a capability without a handler are not the only ones
    with this fault. -/
theorem raises_relayedCommand : ∃ (relay : Capability) (r : Registry) (built : Vault KeeperList),
    (∀ f, Registry.standard.payloadUnion f Family.keeperOnly = .ok (relay.union f))
      ∧ Registry.standard.register relay = .ok r
      ∧ create r (.native "uosmo") (.synthetic "osmo1vault") ⟨30, none, none, true⟩ (.int 1)
        [("relay", .empty)] = .ok built
      ∧ built.HasQuietHandlers
      ∧ Raises "pause" (built.executeWire relayedCommand "bob" 0).outcome
      ∧ Raises "pause" (built.queryWire relayedCommand).1
      ∧ ¬ Family.IsUnwanted ["relay"] "pause" relayedCommand
      ∧ ¬ ∀ (r : Registry) (baseToken vaultToken : Token) (terms : Terms) (version : Json)
          (handlers : List (Text × KeeperList)) (built : Vault KeeperList),
        create r baseToken vaultToken terms version handlers = .ok built →
          built.HasQuietHandlers → ∀ data c sender funds,
            Raises c (built.executeWire data sender funds).outcome
              ↔ Family.IsUnwanted (handlers.map Prod.fst) c data := by
  obtain ⟨execute, hexecute⟩ :
      ∃ u, Registry.standard.payloadUnion .execute Family.keeperOnly = .ok u := ⟨_, rfl⟩
  obtain ⟨query, hquery⟩ :
      ∃ u, Registry.standard.payloadUnion .query Family.keeperOnly = .ok u := ⟨_, rfl⟩
  obtain ⟨built, hbuilt, hraises, hasks⟩ : ∃ built : Vault KeeperList,
      create (Registry.standard ++ [⟨"relay", execute, query⟩]) (.native "uosmo")
          (.synthetic "osmo1vault") ⟨30, none, none, true⟩ (.int 1) [("relay", .empty)] = .ok built
        ∧ Raises "pause" (built.executeWire relayedCommand "bob" 0).outcome
        ∧ Raises "pause" (built.queryWire relayedCommand).1 := by
    cases hexecute
    cases hquery
    exact ⟨_, rfl, ⟨_, rfl, rfl⟩, ⟨_, rfl, rfl⟩⟩
  have hquiet : built.HasQuietHandlers := fun _ h _ => KeeperList.isQuiet h
  have hwanted : ¬ Family.IsUnwanted ["relay"] "pause" relayedCommand := by
    intro h
    obtain ⟨-, payload, hdata⟩ := h
    cases hdata
  refine ⟨⟨"relay", execute, query⟩, _, built, ?_, rfl, hbuilt, hquiet, hraises, hasks, hwanted, ?_⟩
  · intro f
    cases f with
    | execute => exact hexecute
    | query => exact hquery
  · intro hall
    exact hwanted ((hall _ _ _ _ _ _ _ hbuilt hquiet _ _ _ _).mp hraises)

end Vault

end ShareVault
