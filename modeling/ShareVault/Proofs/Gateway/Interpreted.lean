import ShareVault.Gateway.Client
import ShareVault.Gateway.Served
import ShareVault.Proofs.Gateway.StandardInfo
import ShareVault.Proofs.Json.Nesting
import ShareVault.Proofs.Message.Exchange

/-! # What a client makes of answers

    A gateway that always succeeds may still send any bytes. A client should give a value
    of the type that it was asked for, or report that it could not interpret the answer.

    That is what it does with every answer that is JSON, whatever it says, except for an
    entry of the storage: there the data has to be empty or a text. An answer that is no
    JSON, or deeper than the client has room for, and an entry that is something else, are
    not reported but fail in the reader of JSON and in that of Base64.

    Main statements:
    - `splits_of_answer`: an answer is no JSON, or has no data, or has some;
    - `splits_smartQuery`, `splits_rawQuery`, `splits_standardInfo`: which answers an
      operation interprets or reports, and that it fails at the others;
    - `interpreted_or_reported`: the same for all operations of a client.
-/

namespace ShareVault

/-! ## Reports -/

namespace ClientFault

/-- A client was answered, and says that it could not interpret the answer. -/
def IsReport : ClientFault → Prop
  | .unexpected _ | .response _ | .stored _ | .notBase64 _ => True
  | _ => False

/-- What reads JSON or Base64 for a client failed. -/
def IsStray : ClientFault → Prop
  | .body _ | .notText => True
  | _ => False

theorem IsStray.not_isReport {f : ClientFault} (h : f.IsStray) : ¬ f.IsReport := by
  cases f with
  | body e => exact id
  | notText => exact id
  | _ => exact absurd h id

end ClientFault

section Outcomes

variable {α : Type} {valid : α → Prop} {outcome : Except ClientFault α} {readable : Prop}

/-- An operation comes to a valid value or to a report. -/
def Interprets (valid : α → Prop) (outcome : Except ClientFault α) : Prop :=
  (∃ x, outcome = .ok x ∧ valid x) ∨ ∃ f, outcome = .error f ∧ f.IsReport

/-- An operation comes to a failure that is no report. -/
def Strays (outcome : Except ClientFault α) : Prop := ∃ f, outcome = .error f ∧ f.IsStray

/-- An operation interprets or reports what is readable, and fails at what is not. -/
structure Splits (valid : α → Prop) (outcome : Except ClientFault α) (readable : Prop) : Prop where
  interprets : readable → Interprets valid outcome
  strays : ¬ readable → Strays outcome

namespace Splits

theorem of_interprets (hreadable : readable) (h : Interprets valid outcome) :
    Splits valid outcome readable :=
  ⟨fun _ => h, fun hunreadable => absurd hreadable hunreadable⟩

theorem of_strays (hunreadable : ¬ readable) (h : Strays outcome) :
    Splits valid outcome readable :=
  ⟨fun hreadable => absurd hreadable hunreadable, fun _ => h⟩

theorem congr {readable' : Prop} (h : Splits valid outcome readable)
    (hsame : readable ↔ readable') : Splits valid outcome readable' :=
  ⟨fun hreadable => h.interprets (hsame.mpr hreadable),
    fun hunreadable => h.strays fun hreadable => hunreadable (hsame.mp hreadable)⟩

/-- No failure is a report, so what is interpreted or reported is readable. -/
theorem interprets_iff (h : Splits valid outcome readable) :
    Interprets valid outcome ↔ readable := by
  refine ⟨?_, h.interprets⟩
  intro hinterprets
  by_contra hunreadable
  obtain ⟨f, hf, hstray⟩ := h.strays hunreadable
  rcases hinterprets with ⟨x, hx, -⟩ | ⟨g, hg, hreport⟩
  · cases hf.symm.trans hx
  · obtain rfl := Except.error.inj (hf.symm.trans hg)
    exact hstray.not_isReport hreport

end Splits

end Outcomes

/-! ## Answers -/

namespace Gateway

variable {G : Type} [Gateway G] {room : Json.Room} {g after : G} {r : Route} {body : Bytes}

/-- A gateway answers a request by success and a body. -/
def Succeeds (g : G) (r : Route) (body : Bytes) (after : G) : Prop :=
  ∃ status, Gateway.ask g r = (.response status body, after) ∧ 200 ≤ status ∧ status < 300

/-- The body of the answer is JSON that there is room for, and data in it is such that it
    is read. That may depend on the gateway after the answer. -/
def Answers (room : Json.Room) (g : G) (r : Route) (reads : G → Json → Prop) : Prop :=
  ∃ body after v, Succeeds g r body after ∧ (Source.bytes body).json room = .ok v
    ∧ ∀ data, v.get? "data" = some data → reads after data

/-- The body of the answer is JSON that there is room for. -/
def AnswersJson (room : Json.Room) (g : G) (r : Route) : Prop :=
  Answers room g r fun _ _ => True

theorem Succeeds.unique {after' : G} {body' : Bytes} (h : Succeeds g r body after)
    (h' : Succeeds g r body' after') : body = body' ∧ after = after' := by
  obtain ⟨_, hask, -, -⟩ := h
  obtain ⟨_, hask', -, -⟩ := h'
  obtain ⟨hresponse, hafter⟩ := Prod.mk.inj (hask.symm.trans hask')
  exact ⟨(Attempt.response.inj hresponse).2, hafter⟩

variable {reads : G → Json → Prop} (h : Succeeds g r body after)

include h

theorem answers_iff_of_ok {v : Json} (hjson : (Source.bytes body).json room = .ok v) :
    Answers room g r reads ↔ ∀ data, v.get? "data" = some data → reads after data := by
  constructor
  · intro hanswers
    obtain ⟨body', after', w, h', hw, hall⟩ := hanswers
    obtain ⟨rfl, rfl⟩ := h.unique h'
    obtain rfl := Except.ok.inj (hjson.symm.trans hw)
    exact hall
  · intro hall
    exact ⟨body, after, v, h, hjson, hall⟩

theorem not_answers_of_error {fault : JsonError}
    (hjson : (Source.bytes body).json room = .error fault) : ¬ Answers room g r reads := by
  intro hanswers
  obtain ⟨body', after', w, h', hw, -⟩ := hanswers
  obtain ⟨rfl, -⟩ := h.unique h'
  cases hjson.symm.trans hw

/-- How much room there is matters only to a body that is too deep. -/
theorem answers_iff_unlimited :
    Answers room g r reads
      ↔ Answers .unlimited g r reads ∧ (Source.bytes body).json room ≠ .error .tooDeep := by
  rcases (Source.bytes body).json_agrees room with hsame | hdeep
  · have hroom : (Source.bytes body).json room ≠ .error .tooDeep := by
      rw [hsame]
      intro hdeep
      obtain ⟨t, -, n, hlevels, -⟩ := Source.exceededBy hdeep
      cases hlevels
    cases hjson : (Source.bytes body).json .unlimited with
    | error fault =>
      refine iff_of_false (not_answers_of_error h (hsame.trans hjson)) ?_
      exact fun hanswers => not_answers_of_error h hjson hanswers.1
    | ok v =>
      rw [answers_iff_of_ok h (hsame.trans hjson), answers_iff_of_ok h hjson]
      exact (and_iff_left hroom).symm
  · exact iff_of_false (not_answers_of_error h hdeep) fun hanswers => hanswers.2 hdeep

/-- The body of an answer is no JSON, or has no data, or has some. What an operation does
    in each case tells which answers are readable. -/
theorem splits_of_answer {α : Type} {valid : α → Prop} {outcome : Except ClientFault α}
    (hfault : ∀ fault, Session.dataOf room body = .error (.body fault) → Strays outcome)
    (hnone : ∀ v, Session.dataOf room body = .error (.unexpected v) → Interprets valid outcome)
    (hdata : ∀ data, Session.dataOf room body = .ok data →
      Splits valid outcome (reads after data)) :
    Splits valid outcome (Answers room g r reads) := by
  unfold Session.dataOf at hfault hnone hdata
  cases hjson : (Source.bytes body).json room with
  | error fault =>
    rw [hjson] at hfault
    exact .of_strays (not_answers_of_error h hjson) (hfault fault rfl)
  | ok v =>
    rw [hjson] at hnone hdata
    simp only at hnone hdata
    cases hget : v.get? "data" with
    | none =>
      rw [hget] at hnone
      refine .of_interprets ((answers_iff_of_ok h hjson).mpr ?_) (hnone v rfl)
      intro data hdata'
      cases hget.symm.trans hdata'
    | some data =>
      rw [hget] at hdata
      refine (hdata data rfl).congr ?_
      rw [answers_iff_of_ok h hjson, hget]
      simp only [Option.some.injEq, forall_eq']

end Gateway

/-! ## Requests -/

/-- A request for a route can be made: the route has an address, and that tells how it
    is reached. -/
def Endpoint.CanAsk (e : Endpoint) (r : Route) : Prop :=
  ∃ url, e.url r = .ok url ∧ Address.isReachable url = true

namespace Session

variable {G : Type} [Gateway G] {e : Endpoint} {r : Route} {s : Session G} {body : Bytes}
  {after : G} (hask : e.CanAsk r) (h : Gateway.Succeeds s.gateway r body after)

include hask h

/-- A request that is answered by success gets the data in the body. -/
theorem fetch_of_success : ∃ s', fetch e r s = (dataOf e.room body, s') ∧ s'.gateway = after := by
  obtain ⟨url, hurl, hreachable⟩ := hask
  obtain ⟨status, hresponse, hlow, hhigh⟩ := h
  unfold fetch
  rw [hurl]
  have haccepted : acceptFrom e.room url status body = dataOf e.room body := by
    rw [acceptFrom, if_pos hreachable, accept, if_pos ⟨hlow, hhigh⟩]
  have hattempts := attempts_response hresponse e.room url (maxAttempts - 1) 0
  rw [haccepted] at hattempts
  exact ⟨_, hattempts, rfl⟩

theorem check_of_success {α : Type} (f : Json → Except ClientFault α) :
    ∃ s', check (fetch e r) f s = ((dataOf e.room body).bind f, s') ∧ s'.gateway = after := by
  obtain ⟨s', hfetch, hgateway⟩ := fetch_of_success hask h
  refine ⟨s', ?_, hgateway⟩
  unfold check
  rw [hfetch]

/-- A check that interprets or reports some data, and fails at all other, does so after a
    request as well. -/
theorem splits_check {α : Type} {valid : α → Prop} {f : Json → Except ClientFault α}
    {reads : Json → Prop} (hf : ∀ data, Splits valid (f data) (reads data)) :
    Splits valid (check (fetch e r) f s).1
      (Gateway.Answers e.room s.gateway r fun _ data => reads data) := by
  obtain ⟨s', hcheck, -⟩ := check_of_success hask h f
  rw [hcheck]
  apply Gateway.splits_of_answer h
  · intro fault hdata
    rw [hdata]
    exact ⟨_, rfl, trivial⟩
  · intro v hdata
    rw [hdata]
    exact .inr ⟨_, rfl, trivial⟩
  · intro data hdata
    rw [hdata]
    exact hf data

end Session

/-! ## Operations -/

/-- Data that an entry of the storage may have. -/
def Json.IsEntry (data : Json) : Prop := data.isEmptyOrZero = true ∨ ∃ t, data = .text t

namespace Client

open Gateway

/-- The values of the type that a query declares. A type that admits anything says nothing
    about them. -/
def IsOf (shape : Shape) (x : Value) : Prop := shape.IsDeclared → shape.Contains x

/-- The information that a vault may give about the standard. -/
def IsInfo (x : Value) : Prop := ∃ i : StandardInfo, x = .standardInfo i ∧ i.fits

theorem isInfo_of_contains {x : Value} (h : Shape.standardInfo.Contains x) : IsInfo x := by
  cases h with
  | field hs _ => cases hs
  | standardInfo hfits => exact ⟨_, rfl, hfits⟩

/-- All data of a response are interpreted or reported. -/
theorem splits_responseOf {m : Message} {shape : Shape} {tag : Text}
    (hshape : m.responseShape? = some shape) (htag : m.tag? = some tag) (data : Json) :
    Splits (IsOf shape) (responseOf m data) True := by
  apply Splits.of_interprets trivial
  unfold responseOf
  rcases Message.decodeResponse_cases hshape htag data with ⟨x, hx⟩ | ⟨issues, hissues⟩
  · rw [hx]
    refine .inl ⟨x, rfl, ?_⟩
    intro hdeclared
    exact Shape.contains_of_load hdeclared ((Message.decodeResponse_eq_ok hshape).mp hx)
  · rw [hissues]
    exact .inr ⟨_, rfl, trivial⟩

/-- What data for a key come to. -/
inductive EntryOutcome (key : Bytes) (data : Json) : Except ClientFault (Option Bytes) → Prop where
  | missing (hempty : data.isEmptyOrZero = true) : EntryOutcome key data (.ok none)
  | stored {t : Text} (ht : data = .text t) (hfull : ¬ data.isEmptyOrZero = true) (b : Bytes) :
    EntryOutcome key data (.ok (some b))
  | notBase64 {t : Text} (ht : data = .text t) (hfull : ¬ data.isEmptyOrZero = true) :
    EntryOutcome key data (.error (.notBase64 key))
  | notText (hnone : ¬ data.IsEntry) : EntryOutcome key data (.error .notText)

theorem entryOutcome (key : Bytes) (data : Json) : EntryOutcome key data (entryOf key data) := by
  unfold entryOf
  split
  · next hempty => exact .missing hempty
  · next hfull =>
    split
    · next t =>
      split
      · next b _ => exact .stored rfl hfull b
      · exact .notBase64 rfl hfull
    · next hnotText =>
      apply EntryOutcome.notText
      intro hentry
      rcases hentry with hempty | ⟨t, ht⟩
      · exact hfull hempty
      · exact hnotText t ht

/-- Data for a key are interpreted or reported if they are empty or a text. -/
theorem splits_entryOf (key : Bytes) (data : Json) :
    Splits (fun _ => True) (entryOf key data) data.IsEntry := by
  have houtcome := entryOutcome key data
  generalize entryOf key data = outcome at houtcome
  cases houtcome with
  | missing hempty => exact .of_interprets (.inl hempty) (.inl ⟨_, rfl, trivial⟩)
  | stored ht _ b => exact .of_interprets (.inr ⟨_, ht⟩) (.inl ⟨_, rfl, trivial⟩)
  | notBase64 ht _ => exact .of_interprets (.inr ⟨_, ht⟩) (.inr ⟨_, rfl, trivial⟩)
  | notText hnone => exact .of_strays hnone ⟨_, rfl, trivial⟩

/-- Stored bytes are interpreted or reported, whatever they are. -/
theorem interprets_stored (b : Bytes) :
    Interprets IsInfo
      ((Shape.standardInfo.loadText (Json.parseStrictBytes? b)).mapError .stored) := by
  cases hloaded : Shape.standardInfo.loadText (Json.parseStrictBytes? b) with
  | error issues => exact .inr ⟨_, rfl, trivial⟩
  | ok x =>
    refine .inl ⟨x, rfl, ?_⟩
    unfold Shape.loadText at hloaded
    split at hloaded
    · exact isInfo_of_contains (Shape.contains_of_load .standardInfo hloaded)
    · cases hloaded

section Operations

variable {G : Type} [Gateway G] {e : Endpoint} {s : Session G} {body : Bytes} {after : G}

/-- The response to a query is interpreted or reported if it is JSON. -/
theorem splits_smartQuery {m : Message} {shape : Shape} {tag text : Text}
    (hshape : m.responseShape? = some shape) (htag : m.tag? = some tag)
    (htext : m.text = .ok text) (hask : e.CanAsk (.smart (Encoding.encodeUtf8 text)))
    (h : Succeeds s.gateway (.smart (Encoding.encodeUtf8 text)) body after) :
    Splits (IsOf shape) (smartQuery e m s).1
      (AnswersJson e.room s.gateway (.smart (Encoding.encodeUtf8 text))) := by
  have hquery : smartQuery e m s
      = Session.check (Session.fetch e (.smart (Encoding.encodeUtf8 text))) (responseOf m) s := by
    unfold smartQuery
    simp only [htext, htag]
  rw [hquery]
  exact Session.splits_check hask h (splits_responseOf hshape htag)

/-- An entry of the storage is interpreted or reported if its data is empty or a text. -/
theorem splits_rawQuery {key : Bytes} (hask : e.CanAsk (.raw key))
    (h : Succeeds s.gateway (.raw key) body after) :
    Splits (fun _ => True) (rawQuery e key s).1
      (Answers e.room s.gateway (.raw key) fun _ data => data.IsEntry) :=
  Session.splits_check hask h (splits_entryOf key)

/-- The information that a vault gives is interpreted or reported if it is JSON. -/
theorem splits_askStandardInfo (hask : e.CanAsk (standardInfoRoute false))
    (h : Succeeds s.gateway (standardInfoRoute false) body after) :
    Splits IsInfo (askStandardInfo e s).1
      (AnswersJson e.room s.gateway (standardInfoRoute false)) := by
  have hsplits := splits_smartQuery (m := .variant Family.standardInfo []) rfl rfl rfl hask h
  refine ⟨?_, hsplits.strays⟩
  intro hreadable
  rcases hsplits.interprets hreadable with ⟨x, hx, hof⟩ | hreport
  · exact .inl ⟨x, hx, isInfo_of_contains (hof .standardInfo)⟩
  · exact .inr hreport

/-- What has to be readable on the way to the information about the standard. If the
    entry of the storage is missing, that is the response to the query, too. -/
def AnswersInfo (room : Json.Room) (g : G) : (raw : Bool) → Prop
  | false => AnswersJson room g (standardInfoRoute false)
  | true => Answers room g (standardInfoRoute true) fun after data => data.IsEntry
    ∧ (data.isEmptyOrZero = true → AnswersJson room after (standardInfoRoute false))

/-- On both ways the information is interpreted or reported if what was answered on the
    way is readable. -/
theorem splits_standardInfo (hgateway : ∀ (g : G) r, ∃ body after, Succeeds g r body after)
    (hask : ∀ raw, e.CanAsk (standardInfoRoute raw)) (raw : Bool) :
    Splits IsInfo (standardInfo e raw s).1 (AnswersInfo e.room s.gateway raw) := by
  cases raw with
  | false =>
    obtain ⟨body, after, h⟩ := hgateway s.gateway (standardInfoRoute false)
    exact splits_askStandardInfo (hask false) h
  | true =>
    obtain ⟨body, after, h⟩ := hgateway s.gateway (standardInfoRoute true)
    obtain ⟨s', hcheck, hafter⟩ :=
      Session.check_of_success (hask true) h (entryOf Vault.standardInfoKey)
    have hquery : rawQuery e Vault.standardInfoKey s
        = ((Session.dataOf e.room body).bind (entryOf Vault.standardInfoKey), s') := hcheck
    unfold standardInfo
    simp only [if_true, hquery]
    apply Gateway.splits_of_answer h
    · intro fault hdata
      rw [hdata]
      exact ⟨_, rfl, trivial⟩
    · intro v hdata
      rw [hdata]
      exact .inr ⟨_, rfl, trivial⟩
    · intro data hdata
      have hentry : (Session.dataOf e.room body).bind (entryOf Vault.standardInfoKey)
          = entryOf Vault.standardInfoKey data := by
        rw [hdata]
        rfl
      have houtcome := entryOutcome Vault.standardInfoKey data
      rw [hentry]
      generalize entryOf Vault.standardInfoKey data = outcome at houtcome
      cases houtcome with
      | missing hempty =>
        -- The query is asked after the entry, so the gateway may be another one by then.
        obtain ⟨body', after', h'⟩ := hgateway s'.gateway (standardInfoRoute false)
        have hsplits := splits_askStandardInfo
          (s := { s' with log := s'.log ++ [fallbackLine e] }) (hask false) h'
        refine hsplits.congr ?_
        show AnswersJson e.room s'.gateway _ ↔ _
        rw [hafter]
        exact ⟨fun hjson => ⟨.inl hempty, fun _ => hjson⟩, fun hreads => hreads.2 hempty⟩
      | stored ht hfull b =>
        exact .of_interprets ⟨.inr ⟨_, ht⟩, fun hempty => absurd hempty hfull⟩ (interprets_stored b)
      | notBase64 ht hfull =>
        exact .of_interprets ⟨.inr ⟨_, ht⟩, fun hempty => absurd hempty hfull⟩
          (.inr ⟨_, rfl, trivial⟩)
      | notText hnone => exact .of_strays (fun hreadable => hnone hreadable.1) ⟨_, rfl, trivial⟩

end Operations

/-- Of a gateway that always succeeds, whatever it sends, each operation of a client that
    can make its requests comes to a value of its type or to a report exactly if the
    answers are readable: if they are JSON that there is room for, and data for a key are
    empty or a text. Otherwise it comes to a failure that is no report. Room is lacking
    only for bodies that are too deep. -/
theorem interpreted_or_reported {G : Type} [Gateway G]
    (hgateway : ∀ (g : G) r, ∃ body after, Succeeds g r body after) (e : Endpoint)
    (s : Session G) :
    (∀ m shape tag text, m.responseShape? = some shape → m.tag? = some tag → m.text = .ok text →
      e.CanAsk (.smart (Encoding.encodeUtf8 text)) →
        Splits (IsOf shape) (smartQuery e m s).1
          (AnswersJson e.room s.gateway (.smart (Encoding.encodeUtf8 text))))
    ∧ (∀ key, e.CanAsk (.raw key) →
        Splits (fun _ => True) (rawQuery e key s).1
          (Answers e.room s.gateway (.raw key) fun _ data => data.IsEntry))
    ∧ ((∀ raw, e.CanAsk (standardInfoRoute raw)) →
        ∀ raw, Splits IsInfo (standardInfo e raw s).1 (AnswersInfo e.room s.gateway raw))
    ∧ ∀ (g : G) r body after, Succeeds g r body after → ∀ reads : G → Json → Prop,
        Answers e.room g r reads ↔
          Answers .unlimited g r reads ∧ (Source.bytes body).json e.room ≠ .error .tooDeep := by
  refine ⟨?_, ?_, splits_standardInfo hgateway, fun _ _ _ _ h _ => answers_iff_unlimited h⟩
  · intro m shape tag text hshape htag htext hask
    obtain ⟨body, after, h⟩ := hgateway s.gateway (.smart (Encoding.encodeUtf8 text))
    exact splits_smartQuery hshape htag htext hask h
  · intro key hask
    obtain ⟨body, after, h⟩ := hgateway s.gateway (.raw key)
    exact splits_rawQuery hask h

end Client

/-! ## Two answers -/

/-- A gateway that sends the same body to everybody. -/
structure Fixed where
  body : Bytes

namespace Fixed

instance : Gateway Fixed where
  ask g _ := (.response 200 g.body, g)

theorem succeeds (g : Fixed) (r : Route) : Gateway.Succeeds g r g.body g :=
  ⟨200, rfl, by decide, by decide⟩

theorem answers_data {data : Json} (hdata : data.IsPlain) {r : Route}
    {reads : Fixed → Json → Prop} :
    Gateway.Answers .unlimited (Fixed.mk (Served.bodyOf (data.write .value))) r reads
      ↔ reads ⟨Served.bodyOf (data.write .value)⟩ data := by
  have hjson : (Source.bytes (Served.bodyOf (data.write .value))).json .unlimited
      = .ok (.object [("data", data)]) := by
    rw [Served.bodyOf_write]
    exact Json.json_valueText (Json.isPlain_singleton hdata)
  have hget : (Json.object [("data", data)]).get? "data" = some data := rfl
  have hsent := succeeds ⟨Served.bodyOf (data.write .value)⟩ r
  rw [Gateway.answers_iff_of_ok hsent hjson, hget]
  simp only [Option.some.injEq, forall_eq']

end Fixed

theorem Endpoint.canAsk_behind {contract : Text}
    (hcontract : ∀ c ∈ contract, isAlphanumeric c = true) {r : Route}
    (hlength : ((behind contract).path r).length ≤ Address.maxLength) :
    (behind contract).CanAsk r :=
  ⟨_, url_eq_ok hcontract hlength, (isPath_path hcontract r).isReachable⟩

namespace Client

open Gateway

/-- The query for the assets. -/
def assetsQuery : Message := .variant Family.totalAssets []

/-- The route of the query. -/
def assetsRoute : Route := .smart (Encoding.encodeUtf8 assetsQuery.toWire.messageText)

/-- A contract whose routes are short. -/
theorem canAsk_osmo1vault :
    (Endpoint.behind "osmo1vault").CanAsk assetsRoute
      ∧ ∀ raw, (Endpoint.behind "osmo1vault").CanAsk (standardInfoRoute raw) := by
  refine ⟨Endpoint.canAsk_behind isAlphanumeric_osmo1vault (by decide +kernel), ?_⟩
  intro raw
  have hlength := length_standardInfoRoute_le "osmo1vault" raw
  exact Endpoint.canAsk_behind isAlphanumeric_osmo1vault (hlength.trans (by decide))

/-- The body with a numeral for data. -/
def numeralBody : Bytes := Served.bodyOf ((Json.text "5").write .value)

/-- The numeral is the amount that was asked for, but neither Base64 nor information
    about the standard, which is reported. -/
theorem interpreted_or_reported_numeral :
    (∀ (g : Fixed) r, ∃ body after, Succeeds g r body after)
    ∧ Interprets (IsOf Family.amountShape)
      (smartQuery (.behind "osmo1vault") assetsQuery (.start (Fixed.mk numeralBody))).1
    ∧ Interprets (fun _ => True)
      (rawQuery (.behind "osmo1vault") Vault.standardInfoKey (.start (Fixed.mk numeralBody))).1
    ∧ ∀ raw, Interprets IsInfo
      (standardInfo (.behind "osmo1vault") raw (.start (Fixed.mk numeralBody))).1 := by
  have hgateway : ∀ (g : Fixed) r, ∃ body after, Succeeds g r body after :=
    fun g r => ⟨_, _, g.succeeds r⟩
  obtain ⟨hassets, hinfo⟩ := canAsk_osmo1vault
  obtain ⟨hsmart, hraw, hstandard, -⟩ := interpreted_or_reported hgateway (.behind "osmo1vault")
    (.start (Fixed.mk numeralBody))
  have hplain : (Json.text "5").IsPlain := trivial
  have hentry : (Json.text "5").IsEntry := .inr ⟨_, rfl⟩
  have hfull : ¬ (Json.text "5").isEmptyOrZero = true := by decide
  refine ⟨hgateway, (hsmart _ _ _ _ rfl rfl rfl hassets).interprets ?_,
    (hraw _ (hinfo true)).interprets ((Fixed.answers_data hplain).mpr hentry), ?_⟩
  · exact (Fixed.answers_data hplain).mpr trivial
  · intro raw
    apply (hstandard hinfo raw).interprets
    cases raw with
    | false => exact (Fixed.answers_data hplain).mpr trivial
    | true =>
      exact (Fixed.answers_data hplain).mpr ⟨hentry, fun hempty => absurd hempty hfull⟩

/-- The body of a page that is no JSON. -/
def pageBody : Bytes := Encoding.encodeUtf8 "not json"

/-- The body with a truth value for data. -/
def truthBody : Bytes := Served.bodyOf ((Json.bool true).write .value)

/-- The page is not reported by any operation, and the truth value is not as an entry. -/
theorem not_reported :
    (∀ (g : Fixed) r, ∃ body after, Succeeds g r body after)
    ∧ ¬ Interprets (IsOf Family.amountShape)
      (smartQuery (.behind "osmo1vault") assetsQuery (.start (Fixed.mk pageBody))).1
    ∧ ¬ Interprets (fun _ => True)
      (rawQuery (.behind "osmo1vault") Vault.standardInfoKey (.start (Fixed.mk pageBody))).1
    ∧ (∀ raw, ¬ Interprets IsInfo
      (standardInfo (.behind "osmo1vault") raw (.start (Fixed.mk pageBody))).1)
    ∧ ¬ Interprets (fun _ => True)
      (rawQuery (.behind "osmo1vault") Vault.standardInfoKey (.start (Fixed.mk truthBody))).1 := by
  have hgateway : ∀ (g : Fixed) r, ∃ body after, Succeeds g r body after :=
    fun g r => ⟨_, _, g.succeeds r⟩
  obtain ⟨hassets, hinfo⟩ := canAsk_osmo1vault
  have hpage : ∀ (r : Route) (reads : Fixed → Json → Prop),
      ¬ Answers .unlimited (Fixed.mk pageBody) r reads := by
    intro r reads
    have hnone : ((Source.bytes pageBody).json .unlimited).toOption.isNone = true := by
      decide +kernel
    cases hjson : (Source.bytes pageBody).json .unlimited with
    | error fault => exact not_answers_of_error (Fixed.succeeds ⟨pageBody⟩ r) hjson
    | ok v =>
      rw [hjson] at hnone
      cases hnone
  have hplain : (Json.bool true).IsPlain := trivial
  have hraw : ∀ body, Splits (fun _ => True)
      (rawQuery (.behind "osmo1vault") Vault.standardInfoKey (.start (Fixed.mk body))).1
      (Answers .unlimited (Fixed.mk body) (.raw Vault.standardInfoKey)
        fun _ data => data.IsEntry) :=
    fun body => splits_rawQuery (hinfo true) (Fixed.succeeds ⟨body⟩ _)
  have hsmart : Splits (IsOf Family.amountShape)
      (smartQuery (.behind "osmo1vault") assetsQuery (.start (Fixed.mk pageBody))).1
      (AnswersJson .unlimited (Fixed.mk pageBody) assetsRoute) :=
    splits_smartQuery rfl rfl rfl hassets (Fixed.succeeds ⟨pageBody⟩ _)
  refine ⟨hgateway, ?_, ?_, ?_, ?_⟩
  · rw [hsmart.interprets_iff]
    exact hpage _ _
  · rw [(hraw pageBody).interprets_iff]
    exact hpage _ _
  · intro raw
    rw [(splits_standardInfo hgateway hinfo raw).interprets_iff]
    cases raw with
    | false => exact hpage _ _
    | true => exact hpage _ _
  · rw [(hraw truthBody).interprets_iff, truthBody, Fixed.answers_data hplain]
    intro hentry
    rcases hentry with hempty | ⟨t, ht⟩
    · exact absurd hempty (by decide)
    · cases ht

end Client

end ShareVault
