import ShareVault.Gateway.Served
import ShareVault.Proofs.Gateway.Interpreted

/-! # Outages of the transport

    The transport may drop any attempt. As long as it drops fewer attempts in a row than
    a request has, nobody notices: a client comes to the same, operation by operation, as
    without the drops, and every operation gets the answers that were meant for it. That
    is shown as a simulation: a gateway behind a bad transport follows the same gateway
    behind a good one, a few attempts late at each request.

    An outage that takes all attempts of a request ends the operation, which neither
    turns to another way nor tries again. So does everything else that goes wrong: it is
    not tried again at all.

    Main statements:
    - `fetch_of_drops`, `fetch_exhausted`: a request through an outage;
    - `runAll_agree`: operations through gateways of which one delays the other;
    - `run_of_asks`: a fault at any request of an operation ends the operation;
    - `outages_unseen`: what outages of each length come to.
-/

namespace ShareVault

/-! ## Drops -/

/-- An attempt that is not made again. -/
def Attempt.IsFinal (a : Attempt) : Prop := ∀ f, a ≠ .dropped f

namespace Gateway

/-- The transport drops the next attempts for a route, by some faults in this order. -/
inductive Drops {G : Type} [Gateway G] (r : Route) : G → List TransportFault → G → Prop where
  | none (g : G) : Drops r g [] g
  | more {g mid after : G} {f : TransportFault} {outage : List TransportFault}
    (hask : ask g r = (.dropped f, mid)) (h : Drops r mid outage after) :
    Drops r g (f :: outage) after

end Gateway

/-! ## Requests through an outage -/

namespace Session

open Gateway

variable {G : Type}

/-- What a request at an address comes to by its last attempt. -/
def settle (room : Json.Room) (url : Text) : Attempt → Except ClientFault Json
  | .response status body => acceptFrom room url status body
  | .dropped f => .error (.dropped f)
  | .broken f => .error (.broken f)
  | .failed f => .error (.failed f)

/-- The session in which `n` attempts at an address were dropped and made again, after
    `k` others. -/
def waited (s : Session G) (url : Text) (k n : Nat) (g : G) : Session G :=
  { s with gateway := g
           requests := s.requests ++ List.replicate n url
           waits := s.waits ++ (List.range' k n).map waitAfter }

/-- The session after a request of `n` attempts, with the waits between them. -/
def tried (s : Session G) (url : Text) (n : Nat) (g : G) : Session G :=
  { s with gateway := g
           requests := s.requests ++ List.replicate n url
           waits := s.waits ++ (List.range (n - 1)).map waitAfter }

theorem waited_zero (s : Session G) (url : Text) (k : Nat) :
    s.waited url k 0 s.gateway = s := by
  unfold waited
  simp only [List.replicate_zero, List.range'_zero, List.map_nil, List.append_nil]

/-- One more attempt, and then the others. -/
theorem waited_succ (s : Session G) (url : Text) (k n : Nat) (mid g : G) :
    (s.waited url k 1 mid).waited url (k + 1) n g = s.waited url k (n + 1) g := by
  unfold waited
  simp only [List.replicate_succ, List.range'_succ, List.map_cons, List.append_assoc,
    List.replicate_zero, List.range'_zero, List.map_nil, List.cons_append, List.nil_append]

/-- After the last attempt there is no wait. -/
theorem waited_tried (s : Session G) (url : Text) (n : Nat) (mid g : G) :
    (s.waited url 0 n mid).tried url 1 g = s.tried url (n + 1) g := by
  unfold waited tried
  rw [Nat.sub_self, Nat.add_sub_cancel, List.range_zero, List.map_nil, List.append_nil,
    List.range_eq_range', List.append_assoc, List.replicate_append_replicate]

section Requests

variable [Gateway G] {s : Session G} {e : Endpoint} {room : Json.Room} {r : Route} {url : Text}
  {mid after : G} {outage : List TransportFault} {a : Attempt}

/-- An attempt is the last one if it is final or if there are no more. -/
theorem attempts_last {more k : Nat} (hask : ask s.gateway r = (a, after))
    (hlast : a.IsFinal ∨ more = 0) :
    attempts room url r more k s = (settle room url a, s.tried url 1 after) := by
  have htried : s.tried url 1 after
      = { s with gateway := after, requests := s.requests ++ [url] } := by
    simp [tried]
  rw [htried, attempts.eq_def]
  simp only [hask]
  -- Only a dropped attempt could be followed by another one.
  cases a with
  | dropped f =>
    rcases hlast with hfinal | rfl
    · exact absurd rfl (hfinal f)
    · rfl
  | _ => rfl

/-- An outage uses up as many attempts as it drops, and the others are made after it. -/
theorem attempts_drops {g : G} (h : Drops r g outage after) (hs : s.gateway = g)
    (more k : Nat) :
    attempts room url r (more + outage.length) k s
      = attempts room url r more (k + outage.length) (s.waited url k outage.length after) := by
  -- By the drops: after each one the request goes on, with one attempt less.
  induction h generalizing s k with
  | none g =>
    subst hs
    rw [List.length_nil, waited_zero]
    rfl
  | @more g mid after f outage hask h ih =>
    have hdropped := attempts_dropped (hs ▸ hask) room url (more + outage.length) k
    rw [List.length_cons, ← Nat.add_assoc, hdropped]
    show attempts room url r (more + outage.length) (k + 1) (s.waited url k 1 mid) = _
    rw [ih rfl, waited_succ, Nat.add_assoc, Nat.add_comm 1]

/-- A request comes to what the last of its attempts comes to, if that is final or the
    attempts are used up. -/
theorem fetch_of_drops (hurl : e.url r = .ok url) (h : Drops r s.gateway outage mid)
    (hshort : outage.length < maxAttempts) (hask : ask mid r = (a, after))
    (hlast : a.IsFinal ∨ outage.length + 1 = maxAttempts) :
    fetch e r s = (settle e.room url a, s.tried url (outage.length + 1) after) := by
  obtain ⟨more, hmore⟩ : ∃ more, maxAttempts - 1 = more + outage.length :=
    ⟨maxAttempts - 1 - outage.length, by omega⟩
  -- The first attempt is not among those that may be made again.
  have hlast' : a.IsFinal ∨ more = 0 := by
    rcases hlast with hfinal | hlength
    · exact .inl hfinal
    · exact .inr (by omega)
  unfold fetch
  rw [hurl]
  show attempts e.room url r (maxAttempts - 1) 0 s = _
  rw [hmore, attempts_drops h rfl, Nat.zero_add]
  rw [attempts_last (s := s.waited url 0 outage.length mid) hask hlast', waited_tried]

/-- Drops of which one is the last. -/
theorem exists_of_drops_append {g : G} {last : TransportFault}
    (h : Drops r g (outage ++ [last]) after) :
    ∃ mid, Drops r g outage mid ∧ ask mid r = (.dropped last, after) := by
  induction outage generalizing g with
  | nil =>
    cases h with
    | more hask h =>
      cases h with
      | none => exact ⟨g, .none g, hask⟩
  | cons f outage ih =>
    cases h with
    | more hask h =>
      obtain ⟨mid, hdrops, hlast⟩ := ih h
      exact ⟨mid, .more hask hdrops, hlast⟩

/-- An outage that takes all attempts ends a request with its last fault. -/
theorem fetch_exhausted {last : TransportFault} (hurl : e.url r = .ok url)
    (h : Drops r s.gateway (outage ++ [last]) after)
    (hlong : outage.length + 1 = maxAttempts) :
    fetch e r s = (.error (.dropped last), s.tried url maxAttempts after) := by
  obtain ⟨mid, hdrops, hask⟩ := exists_of_drops_append h
  rw [fetch_of_drops hurl hdrops (by omega) hask (.inr hlong), hlong]
  rfl

end Requests

end Session

/-! ## The entry of the storage -/

namespace Client

variable {G : Type} [Gateway G] {e : Endpoint} {s s' : Session G}

theorem standardInfo_of_error {f : ClientFault}
    (h : rawQuery e Vault.standardInfoKey s = (.error f, s')) :
    standardInfo e true s = (.error f, s') := by
  unfold standardInfo
  simp only [if_true, h]

theorem standardInfo_of_stored {stored : Bytes}
    (h : rawQuery e Vault.standardInfoKey s = (.ok (some stored), s')) :
    standardInfo e true s
      = ((Shape.standardInfo.loadText (Json.parseStrictBytes? stored)).mapError .stored, s') := by
  unfold standardInfo
  simp only [if_true, h]

theorem standardInfo_of_none (h : rawQuery e Vault.standardInfoKey s = (.ok none, s')) :
    standardInfo e true s = askStandardInfo e { s' with log := s'.log ++ [fallbackLine e] } := by
  unfold standardInfo
  simp only [if_true, h]

end Client

/-! ## Gateways that delay others -/

/-- The gateways in relation `R` make the same attempts, the second one after an outage
    that is shorter than a request. -/
def Gateway.Delays {G G' : Type} [Gateway G] [Gateway G'] (R : G → G' → Prop) : Prop :=
  ∀ g g' r, R g g' → ∃ outage mid a next next', Drops r g' outage mid
    ∧ outage.length < Session.maxAttempts ∧ a.IsFinal
    ∧ ask g r = (a, next) ∧ ask mid r = (a, next') ∧ R next next'

/-- Two sessions have gateways in a relation, and the same log. -/
structure Session.Alike {G G' : Type} (R : G → G' → Prop) (s : Session G) (s' : Session G') :
    Prop where
  gateway : R s.gateway s'.gateway
  log : s.log = s'.log

/-- Two operations come to the same in sessions that are alike, and leave such sessions. -/
def Agree {G G' α : Type} (R : G → G' → Prop) (x : Exchange G α) (x' : Exchange G' α) : Prop :=
  ∀ s s', Session.Alike R s s' → (x s).1 = (x' s').1 ∧ Session.Alike R (x s).2 (x' s').2

section Agreement

variable {G G' : Type} {R : G → G' → Prop}

theorem Session.check_agree {α β : Type} {x : Exchange G α} {x' : Exchange G' α}
    (h : Agree R x x') (f : α → Except ClientFault β) :
    Agree R (Session.check x f) (Session.check x' f) := by
  intro s s' hs
  obtain ⟨houtcome, hafter⟩ := h s s' hs
  refine ⟨?_, hafter⟩
  show (x s).1.bind f = (x' s').1.bind f
  rw [houtcome]

variable [Gateway G] [Gateway G'] (hR : Gateway.Delays R) (e : Endpoint)

include hR

theorem Session.fetch_agree (r : Route) :
    Agree R (Session.fetch (G := G) e r) (Session.fetch (G := G') e r) := by
  intro s s' hs
  cases hurl : e.url r with
  | error f =>
    rw [fetch_of_no_address hurl, fetch_of_no_address hurl]
    exact ⟨rfl, hs⟩
  | ok url =>
    obtain ⟨outage, mid, a, next, next', hdrops, hshort, hfinal, hask, hask', hnext⟩ :=
      hR _ _ r hs.gateway
    rw [fetch_of_drops hurl (.none s.gateway) (by decide) hask (.inl hfinal),
      fetch_of_drops hurl hdrops hshort hask' (.inl hfinal)]
    exact ⟨rfl, hnext, hs.log⟩

namespace Client

theorem smartQuery_agree (m : Message) :
    Agree R (smartQuery (G := G) e m) (smartQuery (G := G') e m) := by
  intro s s' hs
  unfold smartQuery
  cases m.text with
  | error f => exact ⟨rfl, hs⟩
  | ok text =>
    cases m.tag? with
    | none => exact ⟨rfl, hs⟩
    | some tag => exact Session.check_agree (Session.fetch_agree hR e _) _ s s' hs

theorem rawQuery_agree (key : Bytes) :
    Agree R (rawQuery (G := G) e key) (rawQuery (G := G') e key) :=
  Session.check_agree (Session.fetch_agree hR e _) _

theorem standardInfo_agree (raw : Bool) :
    Agree R (standardInfo (G := G) e raw) (standardInfo (G := G') e raw) := by
  have hasks : Agree R (askStandardInfo (G := G) e) (askStandardInfo (G := G') e) :=
    smartQuery_agree hR e _
  intro s s' hs
  cases raw with
  | false => exact hasks s s' hs
  | true =>
    obtain ⟨houtcome, hafter⟩ := rawQuery_agree hR e Vault.standardInfoKey s s' hs
    cases hraw : rawQuery e Vault.standardInfoKey s with
    | mk outcome after =>
      cases hraw' : rawQuery e Vault.standardInfoKey s' with
      | mk outcome' after' =>
        rw [hraw, hraw'] at houtcome hafter
        obtain rfl : outcome = outcome' := houtcome
        cases outcome with
        | error f =>
          rw [standardInfo_of_error hraw, standardInfo_of_error hraw']
          exact ⟨rfl, hafter⟩
        | ok entry =>
          cases entry with
          | some stored =>
            rw [standardInfo_of_stored hraw, standardInfo_of_stored hraw']
            exact ⟨rfl, hafter⟩
          | none =>
            -- Both go on to the query, with the same line in the log.
            rw [standardInfo_of_none hraw, standardInfo_of_none hraw']
            exact hasks _ _ ⟨hafter.gateway, congrArg (· ++ [fallbackLine e]) hafter.log⟩

end Client

end Agreement

/-! ## Operations -/

namespace Client

/-- The operations of a client. -/
inductive Operation where
  | smartQuery (m : Message)
  | rawQuery (key : Bytes)
  | standardInfo (raw : Bool)

/-- What an operation gives. -/
inductive Reply where
  | value (x : Value)
  | entry (b : Option Bytes)

namespace Operation

section Runs

variable {G : Type} [Gateway G]

/-- Runs an operation. -/
def run (e : Endpoint) : Operation → Exchange G Reply
  | .smartQuery m => Session.check (Client.smartQuery e m) fun x => .ok (.value x)
  | .rawQuery key => Session.check (Client.rawQuery e key) fun b => .ok (.entry b)
  | .standardInfo raw => Session.check (Client.standardInfo e raw) fun x => .ok (.value x)

/-- Runs operations one after the other, whatever each of them comes to. -/
def runAll (e : Endpoint) : List Operation → Session G →
    List (Except ClientFault Reply) × Session G
  | [], s => ([], s)
  | op :: ops, s =>
    let (outcome, s') := op.run e s
    let (outcomes, s'') := runAll e ops s'
    (outcome :: outcomes, s'')

end Runs

section Agreement

variable {G G' : Type} [Gateway G] [Gateway G'] {R : G → G' → Prop} (hR : Gateway.Delays R)
  (e : Endpoint)

include hR

theorem run_agree (op : Operation) : Agree R (op.run (G := G) e) (op.run (G := G') e) := by
  cases op with
  | smartQuery m => exact Session.check_agree (smartQuery_agree hR e m) _
  | rawQuery key => exact Session.check_agree (rawQuery_agree hR e key) _
  | standardInfo raw => exact Session.check_agree (standardInfo_agree hR e raw) _

theorem runAll_agree (ops : List Operation) {s : Session G} {s' : Session G'}
    (hs : Session.Alike R s s') :
    (runAll e ops s).1 = (runAll e ops s').1
      ∧ Session.Alike R (runAll e ops s).2 (runAll e ops s').2 := by
  induction ops generalizing s s' with
  | nil => exact ⟨rfl, hs⟩
  | cons op ops ih =>
    obtain ⟨houtcome, hafter⟩ := run_agree hR e op s s' hs
    obtain ⟨houtcomes, hlast⟩ := ih hafter
    refine ⟨?_, hlast⟩
    show (op.run e s).1 :: (runAll e ops (op.run e s).2).1
      = (op.run e s').1 :: (runAll e ops (op.run e s').2).1
    rw [houtcome, houtcomes]

end Agreement

/-! ## Requests of operations -/

/-- An operation makes a request for a route, in a session that may be a later one than
    that in which the operation begins. -/
inductive Asks {G : Type} [Gateway G] (e : Endpoint) (s : Session G) :
    Operation → Route → Session G → Prop where
  | smart {m : Message} {text tag : Text} (htext : m.text = .ok text) (htag : m.tag? = some tag) :
    Asks e s (.smartQuery m) (.smart (Encoding.encodeUtf8 text)) s
  | raw (key : Bytes) : Asks e s (.rawQuery key) (.raw key) s
  /-- The storage is read first. -/
  | stored : Asks e s (.standardInfo true) (standardInfoRoute true) s
  /-- The query follows where the storage has no entry. -/
  | fallback {s' : Session G} (hnone : Client.rawQuery e Vault.standardInfoKey s = (.ok none, s')) :
    Asks e s (.standardInfo true) (standardInfoRoute false)
      { s' with log := s'.log ++ [fallbackLine e] }
  | query : Asks e s (.standardInfo false) (standardInfoRoute false) s

/-- What the entry of the storage comes to, if there is one. -/
def storedReply : Option Bytes → Except ClientFault (Option Reply)
  | none => .ok none
  | some stored =>
    ((Shape.standardInfo.loadText (Json.parseStrictBytes? stored)).mapError .stored).map
      fun x => some (.value x)

/-- What an operation makes of the data for a route. There is no reply yet if another
    request has to be made. -/
def reads : Operation → Route → Json → Except ClientFault (Option Reply)
  | .smartQuery m, _, data => (responseOf m data).map fun x => some (.value x)
  | .rawQuery key, _, data => (entryOf key data).map fun b => some (.entry b)
  | .standardInfo _, .smart _, data =>
    (responseOf (.variant Family.standardInfo []) data).map fun x => some (.value x)
  | .standardInfo _, .raw key, data => (entryOf key data).bind storedReply

section Faults

variable {G : Type} {s s' : Session G} {f : ClientFault}

theorem error_of_map {α β : Type} {outcome : Except ClientFault α} {g : α → β}
    (h : outcome.map g = .error f) : outcome = .error f := by
  cases outcome with
  | error f' =>
    cases h
    rfl
  | ok a => cases h

/-- A fault in what is fetched or in what is made of it. -/
theorem check_of_fault {α β : Type} {x : Exchange G Json} {k : Json → Except ClientFault α}
    {g : α → β} {outcome : Except ClientFault Json} (hx : x s = (outcome, s'))
    (hfault : (outcome.bind fun data => (k data).map g) = .error f) :
    Session.check x k s = (.error f, s') := by
  unfold Session.check
  rw [hx]
  cases outcome with
  | error f' =>
    cases hfault
    rfl
  | ok data =>
    have hdata : k data = .error f := error_of_map hfault
    show (k data, s') = _
    rw [hdata]

/-- A fault stays whatever would have been done afterwards. -/
theorem check_of_error {α β : Type} {x : Exchange G α} (hx : x s = (.error f, s'))
    (k : α → Except ClientFault β) : Session.check x k s = (.error f, s') := by
  unfold Session.check
  rw [hx]
  rfl

variable [Gateway G] {e : Endpoint} {outcome : Except ClientFault Json}

theorem askStandardInfo_of_fault
    (hfetch : Session.fetch e (standardInfoRoute false) s = (outcome, s'))
    (hfault : outcome.bind (reads (.standardInfo true) (standardInfoRoute false)) = .error f) :
    askStandardInfo e s = (.error f, s') :=
  check_of_fault hfetch hfault

/-- The entry of the storage ends the operation if it cannot be had or not be read. -/
theorem standardInfo_of_fault
    (hfetch : Session.fetch e (.raw Vault.standardInfoKey) s = (outcome, s'))
    (hfault : outcome.bind (reads (.standardInfo true) (.raw Vault.standardInfoKey)) = .error f) :
    Client.standardInfo e true s = (.error f, s') := by
  have hraw : Client.rawQuery e Vault.standardInfoKey s
      = (outcome.bind (entryOf Vault.standardInfoKey), s') := by
    unfold Client.rawQuery Session.check
    rw [hfetch]
  have hentry : (outcome.bind (entryOf Vault.standardInfoKey)).bind storedReply = .error f := by
    cases outcome with
    | error f' => exact hfault
    | ok data => exact hfault
  generalize outcome.bind (entryOf Vault.standardInfoKey) = entry at hraw hentry
  cases entry with
  | error f' =>
    cases hentry
    exact standardInfo_of_error hraw
  | ok entry =>
    cases entry with
    | none => cases hentry
    | some stored =>
      rw [standardInfo_of_stored hraw]
      exact Prod.ext (error_of_map hentry) rfl

/-- A fault at one of its requests ends an operation at once. -/
theorem run_of_asks {op : Operation} {r : Route} {after : Session G} (h : op.Asks e s r s')
    (hfetch : Session.fetch e r s' = (outcome, after))
    (hfault : outcome.bind (op.reads r) = .error f) : op.run e s = (.error f, after) := by
  cases h with
  | @smart m text tag htext htag =>
    have hquery : Client.smartQuery e m s = (.error f, after) := by
      unfold Client.smartQuery
      simp only [htext, htag]
      exact check_of_fault hfetch hfault
    exact check_of_error hquery _
  | raw key => exact check_of_error (check_of_fault hfetch hfault) _
  | stored => exact check_of_error (standardInfo_of_fault hfetch hfault) _
  | fallback hnone =>
    have hinfo : Client.standardInfo e true s = (.error f, after) := by
      rw [standardInfo_of_none hnone]
      exact askStandardInfo_of_fault hfetch hfault
    exact check_of_error hinfo _
  | query => exact check_of_error (askStandardInfo_of_fault hfetch hfault) _

end Faults

end Operation

end Client

/-! ## Prepared attempts with outages -/

namespace Prepared

open Gateway

/-- Prepared attempts with outages in front of them, each in front of one attempt. -/
def interrupted : List (List TransportFault) → List Attempt → List Attempt
  | outage :: outages, a :: script => outage.map .dropped ++ a :: interrupted outages script
  | _, script => script

/-- A gateway has the attempts of another one, with some of the outages that there are
    in front of them. -/
def Interrupts (outages : List (List TransportFault)) (p p' : Prepared) : Prop :=
  (∀ a ∈ p.coming, a.IsFinal) ∧ ∃ rest, rest <:+ outages ∧ p'.coming = interrupted rest p.coming

/-- The attempts after the first one. The last one stays. -/
def later (a : Attempt) : List Attempt → List Attempt
  | [] => [a]
  | next :: script => next :: script

theorem ask_cons (a : Attempt) (script : List Attempt) (r : Route) :
    Gateway.ask (mk (a :: script)) r = (a, mk (later a script)) := by
  cases script with
  | nil => rfl
  | cons next script => rfl

theorem mem_of_mem_later {a b : Attempt} {script : List Attempt} (h : b ∈ later a script) :
    b ∈ a :: script := by
  cases script with
  | nil => exact h
  | cons next script => exact List.mem_cons_of_mem a h

/-- An outage in front of an attempt is gone through up to the attempt. -/
theorem drops_append (outage : List TransportFault) (a : Attempt) (script : List Attempt)
    (r : Route) :
    Drops r (mk (outage.map .dropped ++ a :: script)) outage (mk (a :: script)) := by
  induction outage with
  | nil => exact .none _
  | cons f outage ih =>
    apply Drops.more _ ih
    show Gateway.ask (mk (.dropped f :: (outage.map Attempt.dropped ++ a :: script))) r = _
    rw [ask_cons]
    cases outage with
    | nil => rfl
    | cons f' outage => rfl

/-- The outages that are left stand in front of the attempts that are left. -/
theorem later_interrupted (a : Attempt) (outages : List (List TransportFault))
    (script : List Attempt) :
    ∃ rest, rest <:+ outages
      ∧ later a (interrupted outages script) = interrupted rest (later a script) := by
  cases script with
  | nil =>
    -- The last attempt stays, and nothing comes in front of it any more.
    refine ⟨[], List.nil_suffix, ?_⟩
    cases outages with
    | nil => rfl
    | cons outage outages => rfl
  | cons next script =>
    refine ⟨outages, List.suffix_refl _, ?_⟩
    cases outages with
    | nil => rfl
    | cons outage outages =>
      cases outage with
      | nil => rfl
      | cons f outage => rfl

theorem delays_interrupts {outages : List (List TransportFault)}
    (hshort : ∀ outage ∈ outages, outage.length < Session.maxAttempts) :
    Delays (Interrupts outages) := by
  intro p p' r h
  obtain ⟨script⟩ := p
  obtain ⟨script'⟩ := p'
  obtain ⟨hfinal, rest, hrest, hcoming⟩ := h
  obtain rfl : script' = interrupted rest script := hcoming
  cases script with
  | nil =>
    -- A gateway without attempts answers by itself.
    have hnone : interrupted rest [] = [] := by
      cases rest with
      | nil => rfl
      | cons outage rest => rfl
    rw [hnone]
    refine ⟨[], _, .response 404 [], _, _, .none _, by decide, ?_, rfl, rfl, hfinal, rest, hrest, ?_⟩
    · intro f hf
      cases hf
    · exact hnone.symm
  | cons a script =>
    have hnext : ∀ b ∈ later a script, b.IsFinal := fun b hb => hfinal b (mem_of_mem_later hb)
    cases rest with
    | nil =>
      exact ⟨[], _, a, _, _, .none _, by decide, hfinal a (List.mem_cons_self ..), ask_cons a script r,
        ask_cons a script r, hnext, [], hrest, rfl⟩
    | cons outage rest =>
      obtain ⟨rest', hrest', hlater⟩ := later_interrupted a rest script
      have hsuffix : rest' <:+ outages :=
        hrest'.trans ((List.suffix_cons outage rest).trans hrest)
      have hlength := hshort outage (hrest.subset (List.mem_cons_self ..))
      exact ⟨outage, _, a, _, _, drops_append outage a _ r, hlength,
        hfinal a (List.mem_cons_self ..), ask_cons a script r, ask_cons a _ r, hnext, rest', hsuffix,
        hlater⟩

end Prepared

/-! ## What outages come to -/

namespace Client

open Gateway Operation Prepared

/-- Short outages change neither what the operations of a session come to nor what they
    log, and leave each answer to the operation that it was meant for. An outage that takes
    all attempts of a request ends the operation by its last fault, after these attempts
    and the waits between them. Whatever else goes wrong at a request, be it a status, a
    body or what is in it, ends the operation at the attempt at which it goes wrong. -/
theorem outages_unseen (e : Endpoint) :
    (∀ (ops : List Operation) (script : List Attempt) (outages : List (List TransportFault)),
      (∀ a ∈ script, a.IsFinal) →
      (∀ outage ∈ outages, outage.length < Session.maxAttempts) →
        let plain := runAll e ops (.start (Prepared.mk script))
        let flaky := runAll e ops (.start (Prepared.mk (interrupted outages script)))
        flaky.1 = plain.1 ∧ flaky.2.log = plain.2.log
          ∧ ∃ rest, rest <:+ outages
            ∧ flaky.2.gateway.coming = interrupted rest plain.2.gateway.coming)
    ∧ ∀ (G : Type) [Gateway G] (op : Operation) (r : Route) (url : Text) (s s' : Session G),
      op.Asks e s r s' → e.url r = .ok url →
        (∀ outage last after, Drops r s'.gateway (outage ++ [last]) after →
          outage.length + 1 = Session.maxAttempts →
            op.run e s = (.error (.dropped last),
              { s' with gateway := after
                        requests := s'.requests ++ List.replicate 5 url
                        waits := s'.waits ++ [1, 2, 4, 8] }))
        ∧ ∀ outage mid a after f, Drops r s'.gateway outage mid →
          outage.length < Session.maxAttempts → ask mid r = (a, after) → a.IsFinal →
          (Session.settle e.room url a).bind (op.reads r) = .error f →
            op.run e s = (.error f, s'.tried url (outage.length + 1) after) := by
  refine ⟨?_, ?_⟩
  · intro ops script outages hfinal hshort plain flaky
    have halike : Session.Alike (Interrupts outages) (.start (Prepared.mk script))
        (.start (Prepared.mk (interrupted outages script))) :=
      ⟨⟨hfinal, outages, List.suffix_refl _, rfl⟩, rfl⟩
    obtain ⟨houtcomes, hafter⟩ := runAll_agree (delays_interrupts hshort) e ops halike
    obtain ⟨-, rest, hrest, hcoming⟩ := hafter.gateway
    exact ⟨houtcomes.symm, hafter.log.symm, rest, hrest, hcoming⟩
  · intro G _ op r url s s' hasks hurl
    refine ⟨?_, ?_⟩
    · intro outage last after hdrops hlong
      exact run_of_asks hasks (Session.fetch_exhausted hurl hdrops hlong) rfl
    · intro outage mid a after f hdrops hshort hask hfinal hfault
      exact run_of_asks hasks (Session.fetch_of_drops hurl hdrops hshort hask (.inl hfinal)) hfault

/-- The connection breaks. -/
def cutOff : TransportFault := ⟨"ReadError", "cut off"⟩

/-- The information is read and asked for, and then an entry that is not to be had. -/
def infoSession : List Operation :=
  [.standardInfo true, .smartQuery assetsQuery, .rawQuery Vault.standardInfoKey]

/-- An empty entry, a body that is no information, a numeral, and a failure. -/
def infoScript : List Attempt :=
  [.response 200 (Served.bodyOf ((Json.text "").write .value)), .response 200 numeralBody,
    .response 200 numeralBody, .response 500 []]

/-- The first answer is late, and the third one as late as can be. -/
def infoOutages : List (List TransportFault) := [[cutOff], [], List.replicate 4 cutOff]

theorem outages_unseen_osmo1vault :
    ((∀ a ∈ infoScript, a.IsFinal)
      ∧ (∀ outage ∈ infoOutages, outage.length < Session.maxAttempts)
      ∧ (runAll (.behind "osmo1vault") infoSession
          (.start (Prepared.mk (interrupted infoOutages infoScript)))).1
        = (runAll (.behind "osmo1vault") infoSession (.start (Prepared.mk infoScript))).1)
    ∧ (∃ url, (Operation.standardInfo true).run (.behind "osmo1vault")
          (.start (Prepared.mk (List.replicate 5 (.dropped cutOff) ++ infoScript)))
        = (.error (.dropped cutOff),
            ⟨Prepared.mk infoScript, List.replicate 5 url, [1, 2, 4, 8], []⟩))
    ∧ ∃ url, (Operation.smartQuery assetsQuery).run (.behind "osmo1vault")
          (.start (Prepared.mk [.dropped cutOff, .response 500 []]))
        = (.error (.status 500), ⟨Prepared.mk [.response 500 []], [url, url], [1], []⟩) := by
  obtain ⟨hunseen, hends⟩ := outages_unseen (.behind "osmo1vault")
  obtain ⟨hassets, hinfo⟩ := canAsk_osmo1vault
  have hresponse : ∀ (status : Nat) (body : Bytes), (Attempt.response status body).IsFinal := by
    intro status body f hf
    cases hf
  have hfinal : ∀ a ∈ infoScript, a.IsFinal := by
    intro a ha
    simp only [infoScript, List.mem_cons, List.not_mem_nil, or_false] at ha
    rcases ha with rfl | rfl | rfl | rfl
    all_goals exact hresponse _ _
  have hshort : ∀ outage ∈ infoOutages, outage.length < Session.maxAttempts := by decide
  obtain ⟨houtcomes, -, -⟩ := hunseen infoSession infoScript infoOutages hfinal hshort
  refine ⟨⟨hfinal, hshort, houtcomes⟩, ?_, ?_⟩
  · obtain ⟨url, hurl, -⟩ := hinfo true
    obtain ⟨hlost, -⟩ := hends Prepared (.standardInfo true) _ url
      (.start (Prepared.mk (List.replicate 5 (.dropped cutOff) ++ infoScript))) _ .stored hurl
    have hdrops := drops_append (List.replicate 5 cutOff) (.response 200 (Served.bodyOf
      ((Json.text "").write .value))) infoScript.tail (standardInfoRoute true)
    exact ⟨url, hlost (List.replicate 4 cutOff) cutOff _ hdrops (by decide)⟩
  · obtain ⟨url, hurl, hreachable⟩ := hassets
    obtain ⟨-, hfault⟩ := hends Prepared (.smartQuery assetsQuery) assetsRoute url
      (.start (Prepared.mk [.dropped cutOff, .response 500 []])) _ (.smart rfl rfl) hurl
    have hsettle : ∀ room, Session.settle room url (.response 500 []) = .error (.status 500) := by
      intro room
      show Session.acceptFrom room url 500 [] = _
      rw [Session.acceptFrom, if_pos hreachable]
      rfl
    refine ⟨url, hfault [cutOff] _ (.response 500 []) _ _
      (drops_append [cutOff] _ [] _) (by decide) rfl (hresponse _ _) ?_⟩
    rw [hsettle]
    rfl

end Client

end ShareVault
