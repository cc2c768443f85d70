import ShareVault.Proofs.Gateway.StandardInfo
import ShareVault.Proofs.Vault.Width

/-! # Snapshots of a vault in use

    A client that takes a snapshot makes two requests, and each of them is made again
    when the transport drops it. Meanwhile others use the vault. What they do is told
    by turns: before each attempt arrives, the vault goes through the acts of a turn.

    Either total is that of the vault at the moment at which its request is answered,
    and these are two moments. Where no deposit and no redeem is accepted between
    them, the supply does not change and the snapshot shows one state. Otherwise it
    may show totals that no state had.

    Main statements:
    - `attempts_shared`: a request is answered in the first turn that is not dropped;
    - `snapshot_eq_ok`, `snapshot_behind`: what is in a snapshot, and when there is one;
    - `snapshot_of_two_moments`: the same, and where it shows a single state.
-/

namespace ShareVault

/-! ## Turns -/

/-- What comes before an attempt, and whether the transport drops the attempt. -/
structure Turn where
  acts : List Act
  fault : Option TransportFault

namespace Turn

/-- What is done in some turns. -/
def allActs (turns : List Turn) : List Act := turns.flatMap acts

/-- The turns that a request takes: those that are dropped, and the first one that is
    answered. -/
def spent : List Turn → List Turn
  | [] => []
  | t :: later => if t.fault.isSome then t :: spent later else [t]

/-- The turns that a request leaves. -/
def left : List Turn → List Turn
  | [] => []
  | t :: later => if t.fault.isSome then left later else later

/-- How often a request is dropped. -/
def drops : List Turn → Nat
  | [] => 0
  | t :: later => if t.fault.isSome then drops later + 1 else 0

end Turn

/-! ## The gateway -/

/-- A gateway in front of a vault that others use. -/
structure Shared (H : Type) where
  vault : Vault H
  /-- The turns of the next attempts. After the last one the vault rests. -/
  coming : List Turn

namespace Shared

variable {H : Type} [Handler H]

/-- What a gateway in front of a vault says to a request, with the turns after it. -/
def answer (v : Vault H) (later : List Turn) (r : Route) : Attempt × Shared H :=
  match Gateway.ask (Served.mk v) r with
  | (a, s) => (a, ⟨s.vault, later⟩)

instance : Gateway (Shared H) where
  ask g r :=
    match g.coming with
    | [] => answer g.vault [] r
    | t :: later =>
      match t.fault with
      | some f => (.dropped f, ⟨g.vault.after t.acts, later⟩)
      | none => answer (g.vault.after t.acts) later r

/-- The vault at the moment at which the next request is answered. -/
def atAnswer (g : Shared H) : Vault H := g.vault.after (Turn.allActs (Turn.spent g.coming))

/-- The gateway after the next request. -/
def afterAnswer (g : Shared H) : Shared H := ⟨g.atAnswer, Turn.left g.coming⟩

/-- What is done between the answers to the next two requests. -/
def between (g : Shared H) : List Act := Turn.allActs (Turn.spent g.afterAnswer.coming)

/-- What is done until both are answered. -/
def during (g : Shared H) : List Act := Turn.allActs (Turn.spent g.coming) ++ g.between

section Turns

variable {v : Vault H} {t : Turn}

theorem atAnswer_of_fault {f : TransportFault} (hfault : t.fault = some f) (later : List Turn) :
    atAnswer ⟨v, t :: later⟩ = atAnswer ⟨v.after t.acts, later⟩ := by
  unfold atAnswer
  rw [Turn.spent, hfault, ← Vault.after_append]
  rfl

theorem atAnswer_of_none (hfault : t.fault = none) (later : List Turn) :
    atAnswer ⟨v, t :: later⟩ = v.after t.acts := by
  unfold atAnswer
  rw [Turn.spent, hfault]
  show v.after (t.acts ++ []) = _
  rw [List.append_nil]

theorem afterAnswer_of_fault {f : TransportFault} (hfault : t.fault = some f)
    (later : List Turn) :
    afterAnswer ⟨v, t :: later⟩ = afterAnswer ⟨v.after t.acts, later⟩ := by
  unfold afterAnswer
  rw [atAnswer_of_fault hfault, Turn.left, hfault]
  rfl

theorem afterAnswer_of_none (hfault : t.fault = none) (later : List Turn) :
    afterAnswer ⟨v, t :: later⟩ = ⟨v.after t.acts, later⟩ := by
  unfold afterAnswer
  rw [atAnswer_of_none hfault, Turn.left, hfault]
  rfl

/-- A turn with a fault is dropped, and what was done in it is done. -/
theorem ask_of_fault {f : TransportFault} (hfault : t.fault = some f) (later : List Turn)
    (r : Route) :
    Gateway.ask (Shared.mk v (t :: later)) r = (.dropped f, Shared.mk (v.after t.acts) later) := by
  show (match t.fault with
    | some f => (Attempt.dropped f, Shared.mk (v.after t.acts) later)
    | none => answer (v.after t.acts) later r) = _
  rw [hfault]

theorem ask_of_none (hfault : t.fault = none) (later : List Turn) (r : Route) :
    Gateway.ask (Shared.mk v (t :: later)) r = answer (v.after t.acts) later r := by
  show (match t.fault with
    | some f => (Attempt.dropped f, Shared.mk (v.after t.acts) later)
    | none => answer (v.after t.acts) later r) = _
  rw [hfault]

theorem answer_eq {r : Route} {a : Attempt}
    (hask : Gateway.ask (Served.mk v) r = (a, Served.mk v)) (later : List Turn) :
    answer v later r = (a, Shared.mk v later) := by
  unfold answer
  rw [hask]

end Turns

end Shared

/-! ## Requests -/

namespace Session

section Attempts

variable {H : Type} [Handler H] {room : Json.Room} {url : Text} {r : Route} {g : Shared H}
  {status : Nat} {body : Bytes}

/-- A request that is dropped no more often than it is made again gets a response from
    the vault of the turn in which it is answered. -/
theorem attempts_shared {more k : Nat} {s : Session (Shared H)} (hs : s.gateway = g)
    (hdrops : Turn.drops g.coming ≤ more)
    (hask : Gateway.ask (Served.mk g.atAnswer) r
      = (.response status body, Served.mk g.atAnswer)) :
    ∃ s', attempts room url r more k s = (acceptFrom room url status body, s')
      ∧ s'.gateway = g.afterAnswer := by
  obtain ⟨v, turns⟩ := g
  -- By the turns: each one is either the last of this request, or followed by another.
  induction turns generalizing v more k s with
  | nil =>
    have hasked : Gateway.ask s.gateway r = (.response status body, Shared.mk v []) := by
      rw [hs]
      exact Shared.answer_eq hask []
    exact ⟨_, attempts_response hasked room url more k, rfl⟩
  | cons t later ih =>
    cases hfault : t.fault with
    | none =>
      rw [Shared.atAnswer_of_none hfault] at hask
      have hasked : Gateway.ask s.gateway r
          = (.response status body, Shared.mk (v.after t.acts) later) := by
        rw [hs, Shared.ask_of_none hfault]
        exact Shared.answer_eq hask later
      rw [Shared.afterAnswer_of_none hfault]
      exact ⟨_, attempts_response hasked room url more k, rfl⟩
    | some f =>
      rw [Shared.atAnswer_of_fault hfault] at hask
      have hdropped : Gateway.ask s.gateway r
          = (.dropped f, Shared.mk (v.after t.acts) later) := by
        rw [hs, Shared.ask_of_fault hfault]
      have hdrops' : Turn.drops later + 1 ≤ more := by
        rw [Turn.drops, hfault] at hdrops
        exact hdrops
      obtain ⟨n, rfl⟩ : ∃ n, more = n + 1 := ⟨more - 1, by omega⟩
      rw [attempts_dropped hdropped, Shared.afterAnswer_of_fault hfault]
      exact ih (v.after t.acts) rfl (Nat.le_of_succ_le_succ hdrops') hask

/-- A request that is dropped more often than it is made again fails. -/
theorem attempts_lost {more k : Nat} {s : Session (Shared H)} (hs : s.gateway = g)
    (hdrops : more < Turn.drops g.coming) :
    ∃ f s', attempts room url r more k s = (.error (.dropped f), s') := by
  obtain ⟨v, turns⟩ := g
  induction turns generalizing v more k s with
  | nil => exact absurd hdrops (Nat.not_lt_zero more)
  | cons t later ih =>
    cases hfault : t.fault with
    | none =>
      rw [Turn.drops, hfault] at hdrops
      exact absurd hdrops (Nat.not_lt_zero more)
    | some f =>
      have hdropped : Gateway.ask s.gateway r
          = (.dropped f, Shared.mk (v.after t.acts) later) := by
        rw [hs, Shared.ask_of_fault hfault]
      cases more with
      | zero =>
        rw [attempts.eq_def]
        simp only [hdropped]
        exact ⟨f, _, rfl⟩
      | succ n =>
        have hdrops' : n + 1 < Turn.drops later + 1 := by
          rw [Turn.drops, hfault] at hdrops
          exact hdrops
        rw [attempts_dropped hdropped]
        exact ih (v.after t.acts) rfl (Nat.lt_of_succ_lt_succ hdrops')

variable {s : Session (Shared H)} {data : Json} (hdata : data.IsPlain)
  (hask : Gateway.ask (Served.mk s.gateway.atAnswer) r
    = (.response 200 (Served.bodyOf (data.write .value)), Served.mk s.gateway.atAnswer))

include hdata hask

/-- What a request gets is what the vault has when it is answered, wherever the client
    asks for it. -/
theorem fetch_shared_eq_ok {e : Endpoint} {s' : Session (Shared H)} {found : Json}
    (h : fetch e r s = (.ok found, s')) :
    found = data ∧ s'.gateway = s.gateway.afterAnswer := by
  unfold fetch at h
  cases hurl : e.url r with
  | error f =>
    rw [hurl] at h
    cases h
  | ok url =>
    rw [hurl] at h
    replace h : attempts e.room url r (maxAttempts - 1) 0 s = (.ok found, s') := h
    by_cases hdrops : Turn.drops s.gateway.coming ≤ maxAttempts - 1
    · obtain ⟨s'', heq, hgateway⟩ := attempts_shared rfl hdrops hask
      rw [heq, acceptFrom] at h
      split at h
      · obtain ⟨hfound, rfl⟩ := Prod.mk.inj h
        exact ⟨Served.eq_of_accept_bodyOf hdata hfound, hgateway⟩
      · cases h
    · obtain ⟨f, s'', heq⟩ := attempts_lost rfl (Nat.lt_of_not_le hdrops)
      rw [heq] at h
      cases h

/-- A request with a short path that is not dropped too often gets it. -/
theorem fetch_shared {contract : Text} (hcontract : ∀ c ∈ contract, isAlphanumeric c = true)
    (hlength : ((Endpoint.behind contract).path r).length ≤ Address.maxLength)
    (hdrops : Turn.drops s.gateway.coming < maxAttempts) :
    ∃ s', fetch (.behind contract) r s = (.ok data, s')
      ∧ s'.gateway = s.gateway.afterAnswer := by
  unfold fetch
  rw [Endpoint.url_eq_ok hcontract hlength]
  obtain ⟨s', heq, hgateway⟩ := attempts_shared rfl (Nat.le_sub_one_of_lt hdrops) hask
  refine ⟨s', ?_, hgateway⟩
  show attempts .unlimited _ r (maxAttempts - 1) 0 s = _
  rw [heq, acceptFrom, if_pos (Endpoint.isPath_path hcontract r).isReachable,
    Served.accept_bodyOf hdata]

end Attempts

/-- What a check lets through. -/
theorem check_eq_ok_iff {G α β : Type} {x : Exchange G α} {f : α → Except ClientFault β}
    {s s' : Session G} {b : β} :
    check x f s = (.ok b, s') ↔ ∃ a, x s = (.ok a, s') ∧ f a = .ok b := by
  unfold check
  cases hx : x s with
  | mk outcome after =>
    cases outcome with
    | error e => simp [Except.bind]
    | ok a => simp [Except.bind, and_comm]

end Session

/-! ## Totals -/

namespace Variant

/-- The message of a variant without arguments. -/
def bare (w : Variant) : Message := .variant w []

/-- The route by which the message is sent. -/
def bareRoute (w : Variant) : Route :=
  .smart (Encoding.encodeUtf8 w.bare.toWire.messageText)

end Variant

/-- A question for a total has no arguments, and the answer is a number of the ledger. -/
structure Question.IsTotal (q : Question) (w : Variant) (total : Ledger → Int) : Prop where
  message : q.toMessage = w.bare
  asksAmount : q.AsksAmount
  returns : w.bare.responseShape? = some Family.amountShape
  loaded : w.ofArguments [] = .ok w.bare
  wellFormed : w.bare.toWire.isWellFormed = true
  short : ((Endpoint.behind []).path w.bareRoute).length ≤ Client.routeRoom
  answered : ∀ {H : Type} [Handler H] (v : Vault H), v.ask q = (.ok (.int (total v.ledger)), v)

theorem Question.isTotal_totalAssets :
    Question.totalAssets.IsTotal Family.totalAssets Ledger.totalAssets :=
  ⟨rfl, asksAmount_of_mem_holdings (mem_holdings_iff.mpr (.inl rfl) : _ ∈ holdings []), rfl, rfl,
    by decide +kernel, by decide +kernel, fun _ => rfl⟩

theorem Question.isTotal_totalSupply :
    Question.totalSupply.IsTotal Family.totalSupply Ledger.totalSupply :=
  ⟨rfl, asksAmount_of_mem_holdings (mem_holdings_iff.mpr (.inr (.inl rfl)) : _ ∈ holdings []),
    rfl, rfl, by decide +kernel, by decide +kernel, fun _ => rfl⟩

namespace Question.IsTotal

variable {H : Type} [Handler H] {v : Vault H} {q : Question} {w : Variant}
  {total : Ledger → Int} (hq : q.IsTotal w total)

include hq

theorem fits_iff : v.Fits q ↔ 0 ≤ total v.ledger ∧ total v.ledger < twoTo 128 := by
  apply Vault.fits_iff
  rw [Vault.answer_eq_ask, hq.answered]

theorem restores (payload : Decoder Message) : (Family.query.union payload).Restores w.bare := by
  obtain ⟨u, hu, values, p, heq, hwritten⟩ := hq.asksAmount.written
  rw [← hq.message, heq]
  exact Family.restores_variant payload hu hwritten

/-- What the gateway has for the message is the numeral of the total. -/
theorem ask {payload : Decoder Message} (hquestions : v.questions = Family.query.union payload) :
    Gateway.ask (Served.mk v) w.bareRoute
      = (.response 200 (Served.bodyOf ((Json.text (Text.ofInt (total v.ledger))).write .value)),
        Served.mk v) := by
  have hrestores : v.questions.Restores w.bare := by
    rw [hquestions]
    exact hq.restores payload
  have hquery : v.query w.bare = (.ok (.int (total v.ledger)), v) := by
    rw [← hq.message, Vault.query, Question.ofMessage?_toMessage]
    exact hq.answered v
  have hdump : Family.amountShape.dump (.int (total v.ledger))
      = .text (Text.ofInt (total v.ledger)) := rfl
  have hwell : (Family.amountShape.dump (.int (total v.ledger))).isWellFormed = true := by
    rw [hdump]
    exact Json.isWellFormed_of_isPrintable Json.isPrintable_of_mem_ofInt
  rw [← hdump]
  exact Vault.ask_smart_of_answer (by rw [hquery]) hrestores
    (Json.isJoined_of_isWellFormed hq.wellFormed) hq.returns (.field rfl) (by rw [hquery]) hwell

/-- The numeral is the response exactly if the total fits. -/
theorem responseOf_eq_ok_iff {x : Value} :
    Client.responseOf w.bare (.text (Text.ofInt (total v.ledger))) = .ok x
      ↔ x = .int (total v.ledger) ∧ v.Fits q := by
  have hamount : Family.amountShape.IsAmount := .inl rfl
  have hload : Family.amountShape.load .value (.text (Text.ofInt (total v.ledger))) = .ok x
      ↔ x = .int (total v.ledger) ∧ 0 ≤ total v.ledger ∧ total v.ledger < twoTo 128 :=
    Shape.load_numeral_eq_ok hamount
  rw [hq.fits_iff, ← hload, ← Message.decodeResponse_eq_ok hq.returns]
  unfold Client.responseOf
  cases w.bare.decodeResponse (.text (Text.ofInt (total v.ledger))) with
  | ok x => simp [Except.mapError]
  | error f => simp [Except.mapError]

/-- Asking for a total is one exchange. -/
theorem askWith_eq {G : Type} [Gateway G] (e : Endpoint) (s : Session G) :
    Client.askWith e w [] s
      = Session.check (Session.fetch e w.bareRoute) (Client.responseOf w.bare) s := by
  unfold Client.askWith
  rw [hq.loaded]
  show Client.smartQuery e w.bare s = _
  unfold Client.smartQuery
  rw [(hq.restores fun _ => .error (.unsupported [])).text_eq_ok]
  rfl

variable {s : Session (Shared H)} {payload : Decoder Message}
  (hquestions : s.gateway.atAnswer.questions = Family.query.union payload)

include hquestions

/-- A client that gets a number gets the total at the moment of the answer. -/
theorem askWith_eq_ok {e : Endpoint} {s' : Session (Shared H)} {x : Value}
    (h : Client.askWith e w [] s = (.ok x, s')) :
    x = .int (total s.gateway.atAnswer.ledger) ∧ s'.gateway = s.gateway.afterAnswer := by
  rw [hq.askWith_eq, Session.check_eq_ok_iff] at h
  obtain ⟨data, hfetch, hx⟩ := h
  have hplain : (Json.text (Text.ofInt (total s.gateway.atAnswer.ledger))).IsPlain := trivial
  obtain ⟨rfl, hgateway⟩ := Session.fetch_shared_eq_ok hplain (hq.ask hquestions) hfetch
  exact ⟨(hq.responseOf_eq_ok_iff.mp hx).1, hgateway⟩

/-- A client with a short address gets a total that fits, if its request is not dropped
    too often. -/
theorem askWith_behind {contract : Text} (hcontract : ∀ c ∈ contract, isAlphanumeric c = true)
    (hroom : contract.length + Client.routeRoom ≤ Address.maxLength)
    (hdrops : Turn.drops s.gateway.coming < Session.maxAttempts)
    (hfits : s.gateway.atAnswer.Fits q) :
    ∃ s', Client.askWith (.behind contract) w [] s
        = (.ok (.int (total s.gateway.atAnswer.ledger)), s')
      ∧ s'.gateway = s.gateway.afterAnswer := by
  have hlength : ((Endpoint.behind contract).path w.bareRoute).length ≤ Address.maxLength := by
    have := hq.short
    rw [Endpoint.length_path]
    omega
  have hplain : (Json.text (Text.ofInt (total s.gateway.atAnswer.ledger))).IsPlain := trivial
  obtain ⟨s', hfetch, hgateway⟩ :=
    Session.fetch_shared hplain (hq.ask hquestions) hcontract hlength hdrops
  refine ⟨s', ?_, hgateway⟩
  rw [hq.askWith_eq, Session.check_eq_ok_iff]
  exact ⟨_, hfetch, hq.responseOf_eq_ok_iff.mpr ⟨rfl, hfits⟩⟩

end Question.IsTotal

/-! ## Snapshots -/

/-- A deposit or a redeem was accepted. -/
def Receipt.IsTrade : Receipt → Prop
  | .minted _ _ _ | .burned _ _ _ _ => True
  | .nothing | .moved _ => False

theorem Ledger.totalSupply_postAll {t : Terms} {l : Ledger} {rs : List Receipt}
    (h : ∀ r ∈ rs, ¬ r.IsTrade) : (l.postAll t rs).totalSupply = l.totalSupply := by
  induction rs generalizing l with
  | nil => rfl
  | cons r rs ih =>
    have hr : ¬ r.IsTrade := h r (List.mem_cons_self ..)
    have hpost : (l.post t r).totalSupply = l.totalSupply := by
      cases r with
      | nothing => rfl
      | moved change => rfl
      | minted recipient gross shares => exact absurd trivial hr
      | burned holder shares recipient paid => exact absurd trivial hr
    rw [postAll, ih fun q hq => h q (List.mem_cons_of_mem r hq), hpost]

namespace Vault

variable {H : Type} [Handler H]

theorem after_mem_states_append (v : Vault H) (first second : List Act) :
    v.after first ∈ v.states (first ++ second) := by
  induction first generalizing v with
  | nil =>
    cases second with
    | nil => exact List.mem_cons_self ..
    | cons a acts => exact List.mem_cons_self ..
  | cons a first ih => exact List.mem_cons_of_mem v (ih (v.act a))

/-- A vault that some run leads to takes the questions of its family. -/
theorem Reachable.questions {v : Vault H} (h : v.Reachable) :
    ∃ payload, v.questions = Family.query.union payload := by
  obtain ⟨start, past, hnew, -, rfl⟩ := h
  rw [questions_after]
  exact hnew.made.2.2

end Vault

namespace Client

variable {H : Type} [Handler H] {s : Session (Shared H)}

/-- The assets of the vault when the first request is answered, and its supply when the
    second one is. -/
def seen (now : Instant) (g : Shared H) : Snapshot :=
  ⟨now, g.atAnswer.ledger.totalAssets, g.afterAnswer.atAnswer.ledger.totalSupply⟩

theorem questions_atAnswer {g : Shared H} (h : g.vault.Reachable) :
    ∃ payload, g.atAnswer.questions = Family.query.union payload
      ∧ g.afterAnswer.atAnswer.questions = Family.query.union payload := by
  obtain ⟨payload, hquestions⟩ := h.questions
  have hfirst : g.atAnswer.questions = Family.query.union payload :=
    (Vault.questions_after ..).trans hquestions
  exact ⟨payload, hfirst, (Vault.questions_after ..).trans hfirst⟩

/-- A snapshot has the two totals as they were seen. -/
theorem snapshot_eq_ok (hs : s.gateway.vault.Reachable) {now : Instant} {e : Endpoint}
    {found : Snapshot} (h : (snapshot e now s).1 = .ok found) : found = seen now s.gateway := by
  obtain ⟨payload, hfirst, hsecond⟩ := questions_atAnswer hs
  unfold snapshot at h
  cases hassets : askWith e Family.totalAssets [] s with
  | mk outcome s' =>
    cases outcome with
    | error f =>
      rw [hassets] at h
      cases h
    | ok assets =>
      obtain ⟨rfl, hgateway⟩ := Question.isTotal_totalAssets.askWith_eq_ok hfirst hassets
      rw [hassets] at h
      simp only at h
      cases hsupply : askWith e Family.totalSupply [] s' with
      | mk outcome s'' =>
        cases outcome with
        | error f =>
          rw [hsupply] at h
          cases h
        | ok supply =>
          rw [← hgateway] at hsecond
          obtain ⟨rfl, -⟩ := Question.isTotal_totalSupply.askWith_eq_ok hsecond hsupply
          rw [hsupply] at h
          rw [← Except.ok.inj h, seen, ← hgateway]
          rfl

/-- There is a snapshot if both totals fit when they are seen and neither request is
    dropped too often. -/
theorem snapshot_behind (hs : s.gateway.vault.Reachable) (now : Instant) {contract : Text}
    (hcontract : ∀ c ∈ contract, isAlphanumeric c = true)
    (hroom : contract.length + routeRoom ≤ Address.maxLength)
    (hdrops : Turn.drops s.gateway.coming < Session.maxAttempts)
    (hdrops' : Turn.drops s.gateway.afterAnswer.coming < Session.maxAttempts)
    (hassets : s.gateway.atAnswer.Fits .totalAssets)
    (hsupply : s.gateway.afterAnswer.atAnswer.Fits .totalSupply) :
    (snapshot (.behind contract) now s).1 = .ok (seen now s.gateway) := by
  obtain ⟨payload, hfirst, hsecond⟩ := questions_atAnswer hs
  obtain ⟨s', hasked, hgateway⟩ :=
    Question.isTotal_totalAssets.askWith_behind hfirst hcontract hroom hdrops hassets
  rw [← hgateway] at hsecond hdrops' hsupply
  obtain ⟨s'', hasked', -⟩ :=
    Question.isTotal_totalSupply.askWith_behind hsecond hcontract hroom hdrops' hsupply
  unfold snapshot
  simp only [hasked, hasked', seen, ← hgateway]
  rfl

/-- Whatever is done to a vault while a client takes a snapshot: the snapshot has the
    assets at the moment of the first answer and the supply at that of the second. If no
    deposit and no redeem is accepted between the two, these are the totals of one state
    in the course of the exchange, the one at the first answer. And there is a snapshot if
    both totals fit and neither request is dropped too often. -/
theorem snapshot_of_two_moments (hs : s.gateway.vault.Reachable) (now : Instant) :
    (∀ e found, (snapshot e now s).1 = .ok found → found = seen now s.gateway)
    ∧ ((∀ r ∈ s.gateway.atAnswer.receipts s.gateway.between, ¬ r.IsTrade) →
      s.gateway.atAnswer ∈ s.gateway.vault.states s.gateway.during
        ∧ (seen now s.gateway).totalAssets = s.gateway.atAnswer.ledger.totalAssets
        ∧ (seen now s.gateway).totalSupply = s.gateway.atAnswer.ledger.totalSupply)
    ∧ ∀ contract : Text, (∀ c ∈ contract, isAlphanumeric c = true) →
      contract.length + routeRoom ≤ Address.maxLength →
      Turn.drops s.gateway.coming < Session.maxAttempts →
      Turn.drops s.gateway.afterAnswer.coming < Session.maxAttempts →
      s.gateway.atAnswer.Fits .totalAssets → s.gateway.afterAnswer.atAnswer.Fits .totalSupply →
        (snapshot (.behind contract) now s).1 = .ok (seen now s.gateway) := by
  refine ⟨fun e found => snapshot_eq_ok hs, ?_, ?_⟩
  · intro hquiet
    refine ⟨Vault.after_mem_states_append .., rfl, ?_⟩
    show (s.gateway.atAnswer.after s.gateway.between).ledger.totalSupply = _
    rw [Vault.ledger_after]
    exact Ledger.totalSupply_postAll hquiet
  · intro contract hcontract hroom hdrops hdrops' hassets hsupply
    exact snapshot_behind hs now hcontract hroom hdrops hdrops' hassets hsupply

/-- The beginning of a year. -/
def newYear : Instant := ⟨2026, 1, 1, 0, 0, 0, 0, .fixed 0⟩

/-- A deposit before an attempt that is dropped, a yield before the first answer, and
    another one with a refused redeem before the second. -/
def quietTurns : List Turn :=
  [⟨[.command (.deposit 1000 none) "alice" 1000], some ⟨"ConnectError", "refused"⟩⟩,
    ⟨[.outside 101], none⟩, ⟨[.outside 5, .command (.redeem 5 none) "bob" 5], none⟩]

theorem snapshot_of_two_moments_quiet : ∃ s : Session (Shared KeeperList),
    s.gateway.vault.Reachable
    ∧ (∀ r ∈ s.gateway.atAnswer.receipts s.gateway.between, ¬ r.IsTrade)
    ∧ (snapshot (.behind "osmo1vault") newYear s).1 = .ok ⟨newYear, 1098, 997⟩
    ∧ s.gateway.atAnswer ∈ s.gateway.vault.states s.gateway.during
    ∧ s.gateway.atAnswer.ledger.totalAssets = 1098
    ∧ s.gateway.atAnswer.ledger.totalSupply = 997 := by
  obtain ⟨v, hnew, hassets, hsupply, hreceipts⟩ := Vault.exists_isNew_of_createSample
    (p := fun v => (Shared.mk v quietTurns).atAnswer.ledger.totalAssets = 1098
      ∧ (Shared.mk v quietTurns).afterAnswer.atAnswer.ledger.totalSupply = 997
      ∧ (Shared.mk v quietTurns).atAnswer.receipts (Shared.mk v quietTurns).between
        = [.moved 5, .nothing])
    (by decide +kernel)
  have hreach : v.Reachable := .of_isNew hnew
  have hquiet : ∀ r ∈ (Shared.mk v quietTurns).atAnswer.receipts (Shared.mk v quietTurns).between,
      ¬ r.IsTrade := by
    rw [hreceipts]
    intro r hr
    simp only [List.mem_cons, List.not_mem_nil, or_false] at hr
    rcases hr with rfl | rfl
    · exact id
    · exact id
  have hseen : seen newYear (Shared.mk v quietTurns) = ⟨newYear, 1098, 997⟩ := by
    rw [seen, hassets, hsupply]
  have hfits : (Shared.mk v quietTurns).atAnswer.Fits .totalAssets := by
    rw [Question.isTotal_totalAssets.fits_iff, hassets]
    decide +kernel
  have hfits' : (Shared.mk v quietTurns).afterAnswer.atAnswer.Fits .totalSupply := by
    rw [Question.isTotal_totalSupply.fits_iff, hsupply]
    decide +kernel
  have hdrops : Turn.drops quietTurns < Session.maxAttempts := by decide
  have hdrops' : Turn.drops (Turn.left quietTurns) < Session.maxAttempts := by decide
  have hs : (Session.start (Shared.mk v quietTurns)).gateway.vault.Reachable := hreach
  obtain ⟨-, hstate, htaken⟩ := snapshot_of_two_moments hs newYear
  obtain ⟨hmem, hassetsThen, hsupplyThen⟩ := hstate hquiet
  have hsnapshot :=
    htaken "osmo1vault" isAlphanumeric_osmo1vault (by decide) hdrops hdrops' hfits hfits'
  exact ⟨.start (Shared.mk v quietTurns), hreach, hquiet, hsnapshot.trans (congrArg _ hseen),
    hmem, hassetsThen.symm.trans hassets, hsupplyThen.symm.trans hsupply⟩

/-- A deposit between the two answers. -/
def tradingTurns : List Turn :=
  [⟨[], none⟩, ⟨[.command (.deposit 1000 none) "alice" 1000], none⟩]

/-- The deposit is accepted, and the snapshot has no assets but 997 shares, which the
    vault never had at once. -/
theorem snapshot_torn : ∃ (v : Vault KeeperList) (found : Snapshot), v.Reachable
    ∧ v.receipts (Shared.mk v tradingTurns).during = [.minted "alice" 1000 997]
    ∧ (snapshot (.behind "osmo1vault") newYear (.start (Shared.mk v tradingTurns))).1 = .ok found
    ∧ ∀ w ∈ v.states (Shared.mk v tradingTurns).during,
      ¬ (found.totalAssets = w.ledger.totalAssets ∧ found.totalSupply = w.ledger.totalSupply) := by
  obtain ⟨v, hnew, hassets, hsupply, hreceipts, hstates⟩ := Vault.exists_isNew_of_createSample
    (p := fun v => (Shared.mk v tradingTurns).atAnswer.ledger.totalAssets = 0
      ∧ (Shared.mk v tradingTurns).afterAnswer.atAnswer.ledger.totalSupply = 997
      ∧ v.receipts (Shared.mk v tradingTurns).during = [.minted "alice" 1000 997]
      ∧ ∀ w ∈ v.states (Shared.mk v tradingTurns).during,
        ¬ (0 = w.ledger.totalAssets ∧ 997 = w.ledger.totalSupply))
    (by decide +kernel)
  have hreach : v.Reachable := .of_isNew hnew
  have hfits : (Shared.mk v tradingTurns).atAnswer.Fits .totalAssets := by
    rw [Question.isTotal_totalAssets.fits_iff, hassets]
    decide +kernel
  have hfits' : (Shared.mk v tradingTurns).afterAnswer.atAnswer.Fits .totalSupply := by
    rw [Question.isTotal_totalSupply.fits_iff, hsupply]
    decide +kernel
  have hdrops : Turn.drops tradingTurns < Session.maxAttempts := by decide
  have hdrops' : Turn.drops (Turn.left tradingTurns) < Session.maxAttempts := by decide
  have hs : (Session.start (Shared.mk v tradingTurns)).gateway.vault.Reachable := hreach
  refine ⟨v, _, hreach, hreceipts, snapshot_behind hs newYear isAlphanumeric_osmo1vault
    (by decide) hdrops hdrops' hfits hfits', ?_⟩
  intro w hw
  rw [seen]
  show ¬ ((Shared.mk v tradingTurns).atAnswer.ledger.totalAssets = w.ledger.totalAssets
    ∧ (Shared.mk v tradingTurns).afterAnswer.atAnswer.ledger.totalSupply = w.ledger.totalSupply)
  rw [hassets, hsupply]
  exact hstates w hw

end Client

end ShareVault
