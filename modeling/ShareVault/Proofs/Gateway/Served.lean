import ShareVault.Gateway.Client
import ShareVault.Gateway.Served
import ShareVault.Proofs.Gateway.Path
import ShareVault.Proofs.Json.Nesting
import ShareVault.Proofs.Message.Exchange
import ShareVault.Proofs.Message.RoundTrip
import ShareVault.Proofs.Vault.Rejection

/-! # Asking a vault through a gateway

    A client that asks through a gateway gets what the vault itself says. On the way
    the query becomes a message, bytes, Base64 letters, the segment of a path and
    an address, the answer becomes a value, a body and a response, and each step is
    undone on the other side.

    An address has a greatest length, and queries have none. What is too long is not
    asked at all.

    Main statements:
    - `fetch_eq_ok`: what a gateway has for a route arrives, with one request;
    - `ask_smart`, `ask_raw`: what the gateway has is what the vault says;
    - `served_like_vault`: so the client is answered like one that asks the vault.
-/

namespace ShareVault

/-! ## Responses -/

namespace Served

/-- The body of a response is the text of an object with the data. -/
theorem bodyOf_write (data : Json) :
    bodyOf (data.write .value)
      = Encoding.encodeUtf8 ((Json.object [("data", data)]).write .value) := by
  have htext : (Json.object [("data", data)]).write .value
      = CodePoint.ofNat 0x7B
        :: (Text.ofString "\"data\":" ++ (data.write .value ++ [CodePoint.ofNat 0x7D])) := by
    show CodePoint.ofNat 0x7B :: Json.writeMembers .value [("data", data)] = _
    rw [Json.Parser.writeMembers_singleton]
    rfl
  unfold bodyOf
  rw [htext, List.append_assoc]

theorem accept_bodyOf {data : Json} (h : data.IsPlain) :
    Session.accept .unlimited 200 (bodyOf (data.write .value)) = .ok data := by
  unfold Session.accept Session.dataOf
  rw [if_pos (by decide), bodyOf_write, Json.json_valueText (Json.isPlain_singleton h)]
  rfl

/-- However much room there is, nothing but the data is accepted. -/
theorem eq_of_accept_bodyOf {room : Json.Room} {data found : Json} (h : data.IsPlain)
    (hfound : Session.accept room 200 (bodyOf (data.write .value)) = .ok found) :
    found = data := by
  have hagrees := (Source.bytes (bodyOf (data.write .value))).json_agrees room
  have hdata := accept_bodyOf h
  unfold Session.accept Session.dataOf at hfound hdata
  rw [if_pos (by decide)] at hfound hdata
  rcases hagrees with hsame | hdeep
  · rw [hsame] at hfound
    exact (Except.ok.inj (hdata.symm.trans hfound)).symm
  · rw [hdeep] at hfound
    cases hfound

end Served

/-! ## Requests -/

section Requests

variable {G α : Type}

/-- The session after one request that was answered at once, by a gateway that is as
    before. -/
def Session.asked (s : Session G) (url : Text) : Session G :=
  { s with requests := s.requests ++ [url] }

/-- An operation asks for a route: from its address, the gateway knows the route, and
    it gives a value after this one request. If the path is too long for an address,
    nothing is requested. -/
structure AsksFor (contract : Text) (r : Route) (s : Session G) (x : Exchange G α) (value : α) :
    Prop where
  short : ((Endpoint.behind contract).path r).length ≤ Address.maxLength →
    ∃ url, (Endpoint.behind contract).url r = .ok url ∧ Endpoint.route? contract url = some r
      ∧ x s = (.ok value, s.asked url)
  long : Address.maxLength < ((Endpoint.behind contract).path r).length →
    x s = (.error (.address .malformed), s)

variable [Gateway G] {contract : Text} (hcontract : ∀ c ∈ contract, isAlphanumeric c = true)

include hcontract

/-- What a gateway has for a route arrives, with one request. -/
theorem fetch_asksFor {s : Session G} {r : Route} {data : Json} (hplain : data.IsPlain)
    (hask : Gateway.ask s.gateway r
      = (.response 200 (Served.bodyOf (data.write .value)), s.gateway)) :
    AsksFor contract r s (Session.fetch (Endpoint.behind contract) r) data := by
  refine ⟨?_, ?_⟩
  · intro hlength
    have hurl := Endpoint.url_eq_ok hcontract hlength
    refine ⟨_, hurl, Endpoint.route?_url hcontract r, ?_⟩
    unfold Session.fetch
    rw [hurl]
    show Session.attempts .unlimited _ r _ 0 s = _
    rw [Session.attempts_response hask]
    unfold Session.acceptFrom
    rw [if_pos (Endpoint.isPath_path hcontract r).isReachable, Served.accept_bodyOf hplain]
    rfl
  · intro hlength
    exact Session.fetch_of_no_address (Endpoint.url_of_long hlength) s

omit hcontract [Gateway G] in
/-- A check that succeeds gives its value in place of what was asked for. -/
theorem AsksFor.check {β : Type} {r : Route} {s : Session G} {x : Exchange G α} {a : α}
    (hx : AsksFor contract r s x a) {f : α → Except ClientFault β} {b : β} (hf : f a = .ok b) :
    AsksFor contract r s (Session.check x f) b := by
  refine ⟨?_, ?_⟩
  · intro hlength
    obtain ⟨url, hurl, hroute, hresult⟩ := hx.short hlength
    refine ⟨url, hurl, hroute, ?_⟩
    unfold Session.check
    rw [hresult, ← hf]
    rfl
  · intro hlength
    unfold Session.check
    rw [hx.long hlength]
    rfl

end Requests

/-! ## Vaults that are asked -/

/-- A handler that is as before after each query. -/
def Handler.OnlyAnswers (H : Type) [Handler H] : Prop :=
  ∀ (h : H) (m : Message), (Handler.query h m).2 = h

theorem KeeperList.onlyAnswers : Handler.OnlyAnswers KeeperList := fun _ _ => rfl

namespace Vault

section Handlers

variable {H : Type} [Handler H]

/-- A query leaves the vault as it is if it leaves the handlers as they are. -/
theorem query_vault (hanswers : Handler.OnlyAnswers H) (v : Vault H) (m : Message) :
    (v.query m).2 = v := by
  unfold query
  cases Question.ofMessage? m with
  | none => rfl
  | some q =>
    cases q with
    | extension payload =>
      show (v.delegate payload Handler.query).2 = v
      cases payload with
      | capability name inner =>
        simp only [delegate]
        cases hlookup : v.handlers.lookup name with
        | none => rfl
        | some h =>
          show { v with handlers := setHandler name (Handler.query h inner).2 v.handlers } = v
          rw [hanswers h inner, setHandler_of_lookup hlookup]
      | _ => rfl
    | _ => rfl

/-- A vault replies to a query with a value of the type that the query declares. No
    surrogates are lost on the way: the query has none that would be joined, and the
    reply has none at all. -/
structure Replies (v : Vault H) (m : Message) (s : Shape) (x : Value) : Prop where
  joined : m.toWire.IsJoined
  shape : m.responseShape? = some s
  answer : (v.query m).1 = .ok x
  contains : s.Contains x
  wellFormed : (s.dump x).isWellFormed = true

/-- What the gateway has for a query that the vault decodes is the dump of its answer, as
    long as the query leaves the vault as it is. -/
theorem ask_smart_of_answer {v : Vault H} {m : Message} (hsame : (v.query m).2 = v) {s : Shape}
    {x : Value} (hm : v.questions.Restores m) (hjoined : m.toWire.IsJoined)
    (hshape : m.responseShape? = some s) (hs : s.IsDeclared) (hanswer : (v.query m).1 = .ok x)
    (hwell : (s.dump x).isWellFormed = true) :
    Gateway.ask (Served.mk v) (.smart (Encoding.encodeUtf8 m.toWire.messageText))
      = (.response 200 (Served.bodyOf ((s.dump x).write .value)), Served.mk v) := by
  have hdata : (Source.bytes (Encoding.encodeUtf8 m.toWire.messageText)).json .unlimited
      = .ok m.toWire := by
    rw [Json.json_messageText hm.plain, Json.joined_eq_self hm.plain hjoined]
  have hquery : v.query m = (.ok x, v) := by
    rw [← hanswer, ← Prod.eta (v.query m), hsame]
  have hdumped : s.dumpText? x = some ((s.dump x).write .value) :=
    (Shape.dumpText?_eq_some_iff hs).mpr ⟨hwell, rfl⟩
  have hencoded : m.encodeResponse x = .ok ((s.dump x).write .value) :=
    (Message.encodeResponse_eq_ok hshape).mpr hdumped
  have hwire : v.queryWire m.toWire = (.ok ((s.dump x).write .value), v) := by
    unfold queryWire
    simp only [hm.decoded _ hm.written, hquery, hencoded]
    rfl
  have hsmart : Served.smart v (Encoding.encodeUtf8 m.toWire.messageText)
      = (.response 200 (Served.bodyOf ((s.dump x).write .value)), v) := by
    unfold Served.smart
    simp only [hdata, hwire]
  show ((Served.smart v _).1, Served.mk (Served.smart v _).2) = _
  rw [hsmart]

/-- If the vault replies, that is the reply. -/
theorem ask_smart {v : Vault H} {m : Message} (hsame : (v.query m).2 = v) {s : Shape}
    {x : Value} (hm : v.questions.Restores m) (hs : s.IsDeclared) (h : v.Replies m s x) :
    Gateway.ask (Served.mk v) (.smart (Encoding.encodeUtf8 m.toWire.messageText))
      = (.response 200 (Served.bodyOf ((s.dump x).write .value)), Served.mk v) :=
  ask_smart_of_answer hsame hm h.joined h.shape hs h.answer h.wellFormed

/-- What the gateway has for a key is the entry of the storage. -/
theorem ask_raw (v : Vault H) (key : Bytes) :
    Gateway.ask (Served.mk v) (.raw key)
      = (.response 200 (Served.bodyOf
          ((Json.text (Base64.encode ((v.rawQuery key).getD []))).write .value)), Served.mk v) :=
  rfl

end Handlers

/-- A vault with the capabilities that are always there, whatever has happened to it
    since it was created. -/
def IsStandard (v : Vault KeeperList) : Prop :=
  ∃ (baseToken vaultToken : Token) (terms : Terms) (version : Json)
    (handlers : List (Text × KeeperList)) (start : Vault KeeperList) (acts : List Act),
    create Registry.standard baseToken vaultToken terms version handlers = .ok start
      ∧ start.after acts = v

theorem IsStandard.questions {v : Vault KeeperList} (hv : v.IsStandard) :
    ∃ wanted payload, Registry.standard.union .query wanted = .ok v.questions
      ∧ Registry.standard.Offers .query wanted payload
      ∧ v.questions = Family.query.union payload.decode := by
  obtain ⟨baseToken, vaultToken, terms, version, handlers, start, acts, hcreate, rfl⟩ := hv
  obtain ⟨-, info, commands, questions, text, -, -, hquestions, -, rfl⟩ := create_eq_ok hcreate
  obtain ⟨payload, hpayload, rfl⟩ := Registry.union_eq_ok hquestions
  rw [questions_after]
  exact ⟨info.extensions, payload, hquestions,
    Registry.offers_of_payloadUnion (by decide) hpayload, rfl⟩

end Vault

/-! ## The client -/

namespace Client

section Operations

variable {H : Type} [Handler H] {contract : Text}
  (hcontract : ∀ c ∈ contract, isAlphanumeric c = true) {v : Vault H}
  {session : Session (Served H)} (hsession : session.gateway = ⟨v⟩)

theorem responseOf_dump {m : Message} {s : Shape} {x : Value} (hshape : m.responseShape? = some s)
    (hx : s.Contains x) : responseOf m (s.dump x) = .ok x := by
  unfold responseOf
  rw [(Message.decodeResponse_eq_ok hshape).mpr (Shape.load_dump .value hx)]
  rfl

/-- The letters of an entry that is not empty are read back as the entry. -/
theorem entryOf_encode (key : Bytes) {stored : Bytes} (hstored : some stored ≠ some []) :
    entryOf key (.text (Base64.encode stored)) = .ok (some stored) := by
  have hnonempty : (Base64.encode stored).isEmpty = false := by
    rw [List.isEmpty_eq_false_iff]
    intro hempty
    have hdecoded := Base64.decode?_encode stored
    rw [hempty] at hdecoded
    exact hstored hdecoded.symm
  unfold entryOf
  show (if (Base64.encode stored).isEmpty = true then _ else _) = _
  rw [hnonempty]
  simp only [Base64.decode?_encode]
  rfl

include hcontract hsession

/-- A query that the vault decodes and replies to, and that leaves the vault as it is, is
    asked for, and the reply comes back. -/
theorem smartQuery_asksFor_of_same {m : Message} (hsame : (v.query m).2 = v) {s : Shape}
    {x : Value} {tag : Text} (hm : v.questions.Restores m) (htag : m.tag? = some tag)
    (hs : s.IsDeclared) (h : v.Replies m s x) :
    AsksFor contract (.smart (Encoding.encodeUtf8 m.toWire.messageText)) session
      (smartQuery (.behind contract) m) x := by
  have hexchange : smartQuery (G := Served H) (.behind contract) m
      = Session.check (Session.fetch (.behind contract)
          (.smart (Encoding.encodeUtf8 m.toWire.messageText))) (responseOf m) := by
    funext before
    unfold smartQuery
    simp only [hm.text_eq_ok, htag]
  rw [hexchange]
  apply AsksFor.check _ (responseOf_dump h.shape h.contains)
  apply fetch_asksFor hcontract h.contains.isPlain_dump
  rw [hsession]
  exact Vault.ask_smart hsame hm hs h

/-- If the handlers only answer, this holds of each query. -/
theorem smartQuery_asksFor (hanswers : Handler.OnlyAnswers H) {m : Message} {s : Shape}
    {x : Value} {tag : Text} (hm : v.questions.Restores m) (htag : m.tag? = some tag)
    (hs : s.IsDeclared) (h : v.Replies m s x) :
    AsksFor contract (.smart (Encoding.encodeUtf8 m.toWire.messageText)) session
      (smartQuery (.behind contract) m) x :=
  smartQuery_asksFor_of_same hcontract hsession (Vault.query_vault hanswers v m) hm htag hs h

/-- An entry of the storage is asked for and sent, unless it is empty: such an entry
    is sent like one that is missing. -/
theorem rawQuery_asksFor {key : Bytes} (hkey : v.rawQuery key ≠ some []) :
    AsksFor contract (.raw key) session (rawQuery (.behind contract) key) (v.rawQuery key) := by
  have hentry : entryOf key (.text (Base64.encode ((v.rawQuery key).getD [])))
      = .ok (v.rawQuery key) := by
    cases hstored : v.rawQuery key with
    | none => rfl
    | some stored => exact entryOf_encode key (by rwa [hstored] at hkey)
  have hplain : (Json.text (Base64.encode ((v.rawQuery key).getD []))).IsPlain := trivial
  apply AsksFor.check _ hentry
  apply fetch_asksFor hcontract hplain
  rw [hsession]
  exact v.ask_raw key

end Operations

/-- A client of a standard vault gets the reply of the vault to each query that the
    vault decodes, and each entry of its storage that is not empty. Either takes one
    request, from whose address the gateway knows what is asked; where the path would
    be too long for an address, nothing is requested. -/
theorem asks_like_vault {v : Vault KeeperList} (hv : v.IsStandard) {contract : Text}
    (hcontract : ∀ c ∈ contract, isAlphanumeric c = true) {session : Session (Served KeeperList)}
    (hsession : session.gateway = ⟨v⟩) :
    (∀ d m, v.questions.decode d = .ok m → ∀ s x, v.Replies m s x →
      ∃ text, m.text = .ok text
        ∧ AsksFor contract (.smart (Encoding.encodeUtf8 text)) session
            (smartQuery (.behind contract) m) x)
    ∧ ∀ key, v.rawQuery key ≠ some [] →
      AsksFor contract (.raw key) session (rawQuery (.behind contract) key) (v.rawQuery key) := by
  obtain ⟨wanted, payload, hunion, hoffers, hquestions⟩ := hv.questions
  have hwired := TaggedUnion.isWired_union (TaggedUnion.isWired_of_mem_standard .query) hunion
  refine ⟨?_, fun key hkey => rawQuery_asksFor hcontract hsession hkey⟩
  intro d m hm s x hreplies
  have hrestores := hwired.restores d m hm
  rw [hquestions] at hm
  obtain ⟨w, hhas⟩ := Family.exists_has_of_decode hoffers hm
  obtain ⟨tag, htag⟩ := hhas.exists_tag
  -- The variant that is asked for declares the type of the reply.
  obtain ⟨s', ⟨-, hs, -⟩, hshape⟩ := hhas.exists_answers
  obtain rfl := Option.some.inj (hshape.symm.trans hreplies.shape)
  exact ⟨_, hrestores.text_eq_ok,
    smartQuery_asksFor hcontract hsession KeeperList.onlyAnswers hrestores htag hs hreplies⟩

/-- A new vault with one keeper. -/
def createWithKeeper : Except CreationFault (Vault KeeperList) :=
  Vault.create Registry.standard (.native "uosmo") (.synthetic "osmo1vault")
    ⟨30, none, none, true⟩ (.int 1) [("keeper", ⟨["osmo1bob"], 0⟩)]

/-- The message that asks for all keepers. -/
def keepersMessage : Message :=
  .extension .query (.capability "keeper" (.variant Capability.Keeper.keepers []))

theorem asks_like_vault_keepers :
    ∃ v : Vault KeeperList, v.IsStandard ∧ v.questions.decode keepersQuery = .ok keepersMessage
      ∧ (∃ url, smartQuery (.behind "osmo1vault") keepersMessage (.start (Served.mk v))
        = (.ok (.list [.text "osmo1bob"]), (Session.start (Served.mk v)).asked url))
      ∧ ∃ url, rawQuery (.behind "osmo1vault") Vault.standardInfoKey (.start (Served.mk v))
        = (.ok (v.rawQuery Vault.standardInfoKey), (Session.start (Served.mk v)).asked url) := by
  obtain ⟨v, hcreate, hm, hanswer, hkey⟩ : ∃ v, createWithKeeper = .ok v
      ∧ v.questions.decode keepersQuery = .ok keepersMessage
      ∧ (v.query keepersMessage).1 = .ok (.list [.text "osmo1bob"])
      ∧ v.rawQuery Vault.standardInfoKey ≠ some [] :=
    ⟨_, rfl, rfl, rfl, by decide +kernel⟩
  have hv : v.IsStandard := ⟨_, _, _, _, _, _, [], hcreate, rfl⟩
  have hcontract : ∀ c ∈ Text.ofString "osmo1vault", isAlphanumeric c = true := by
    rw [← List.all_eq_true]
    decide
  have hbob : (Shape.list .text).Contains (.list [.text "osmo1bob"]) :=
    .list (List.forall_mem_singleton.mpr (.field rfl (.text _)))
  have hsession : (Session.start (Served.mk v)).gateway = ⟨v⟩ := rfl
  obtain ⟨hsmart, hraw⟩ := asks_like_vault hv hcontract hsession
  refine ⟨v, hv, hm, ?_, ?_⟩
  · have hjoined : keepersMessage.toWire.IsJoined :=
      Json.isJoined_of_isWellFormed (by decide +kernel)
    obtain ⟨text, htext, hasks⟩ :=
      hsmart keepersQuery keepersMessage hm _ _ ⟨hjoined, rfl, hanswer, hbob, rfl⟩
    have hwritten : text = keepersMessage.toWire.messageText := (Except.ok.inj htext).symm
    subst hwritten
    obtain ⟨url, -, -, hresult⟩ := hasks.short (by decide +kernel)
    exact ⟨url, hresult⟩
  · obtain ⟨url, -, -, hresult⟩ := (hraw Vault.standardInfoKey hkey).short (by decide +kernel)
    exact ⟨url, hresult⟩

/-! ## Queries that are too long -/

/-- The query for the shares of an owner. -/
def sharesQuery (owner : Text) : Json := .object [("max_redeem", .object [("owner", .text owner)])]

theorem length_asciiPoint_pos (c : CodePoint) : 0 < (JsonStyle.asciiPoint c).length := by
  unfold JsonStyle.asciiPoint
  split
  · next escape hshort =>
    obtain ⟨-, e, rfl, -⟩ := Json.Parser.escaped?_of_shortEscape? hshort
    exact Nat.two_pos
  split
  · exact Nat.one_pos
  split
  · exact Nat.succ_pos 5
  · exact Nat.succ_pos 11

theorem length_le_messageText_text (t : Text) : t.length ≤ (Json.text t).messageText.length := by
  have hpoints := Percent.length_le_flatMap length_asciiPoint_pos t
  show t.length
    ≤ (CodePoint.ofChar '"' :: t.flatMap JsonStyle.asciiPoint ++ [CodePoint.ofChar '"']).length
  simp only [List.length_cons, List.length_append]
  omega

theorem length_le_messageText_singleton (key : Text) (v : Json) :
    v.messageText.length ≤ (Json.object [(key, v)]).messageText.length := by
  show (v.write .message).length
    ≤ (CodePoint.ofNat 0x7B :: Json.writeMembers .message [(key, v)]).length
  rw [Json.Parser.writeMembers_singleton]
  simp only [List.length_cons, List.length_append]
  omega

/-- An owner is shorter than three quarters of the path of the query. -/
theorem length_lt_path_sharesQuery (contract owner : Text) :
    4 * owner.length < 3 * ((Endpoint.behind contract).path
      (.smart (Encoding.encodeUtf8 (sharesQuery owner).messageText))).length := by
  have hmessage : owner.length ≤ (sharesQuery owner).messageText.length :=
    calc owner.length ≤ (Json.text owner).messageText.length := length_le_messageText_text owner
      _ ≤ (Json.object [("owner", .text owner)]).messageText.length :=
        length_le_messageText_singleton _ _
      _ ≤ (sharesQuery owner).messageText.length := length_le_messageText_singleton _ _
  have hbytes := Percent.length_le_encodeUtf8 (sharesQuery owner).messageText
  have hpath := Endpoint.length_lt_path contract
    (.smart (Encoding.encodeUtf8 (sharesQuery owner).messageText))
  have hsame : (Route.smart (Encoding.encodeUtf8 (sharesQuery owner).messageText)).bytes
    = Encoding.encodeUtf8 (sharesQuery owner).messageText := rfl
  rw [hsame] at hpath
  omega

/-- Nothing is requested for the shares of an owner with too long a name. -/
theorem smartQuery_of_long {G : Type} [Gateway G] (contract : Text) {owner : Text}
    (hlong : 3 * Address.maxLength ≤ 4 * owner.length) (session : Session G) :
    smartQuery (.behind contract) (.variant Family.maxRedeem [.text owner]) session
      = (.error (.address .malformed), session) := by
  have htext : Message.text (.variant Family.maxRedeem [.text owner])
      = .ok (sharesQuery owner).messageText := rfl
  have hpath := length_lt_path_sharesQuery contract owner
  unfold smartQuery
  simp only [htext]
  show Session.check (Session.fetch _ _) _ session = _
  unfold Session.check
  rw [Session.fetch_of_no_address (Endpoint.url_of_long (by omega))]
  rfl

/-- A vault replies how many shares an owner with fifty thousand letters has, but
    nothing is requested for that. -/
theorem smartQuery_longOwner :
    ∃ (v : Vault KeeperList) (m : Message) (s : Shape), v.IsStandard
      ∧ v.questions.decode (sharesQuery (List.replicate 50000 (CodePoint.ofChar 'a'))) = .ok m
      ∧ v.Replies m s (.int 0)
      ∧ ∀ session : Session (Served KeeperList), session.gateway = ⟨v⟩ →
        smartQuery (.behind "osmo1vault") m session = (.error (.address .malformed), session) := by
  have hdecodes : ∀ owner : Text, ∃ v, createWithKeeper = .ok v
      ∧ v.questions.decode (sharesQuery owner) = .ok (.variant Family.maxRedeem [.text owner])
      ∧ (v.query (.variant Family.maxRedeem [.text owner])).1 = .ok (.int 0) :=
    fun owner => ⟨_, rfl, rfl, rfl⟩
  have hjoined : ∀ owner : Text, owner.isWellFormed = true →
      (Message.toWire (.variant Family.maxRedeem [.text owner])).IsJoined := by
    intro owner howner
    have hkeys : Text.isWellFormed "max_redeem" = true ∧ Text.isWellFormed "owner" = true := by
      decide
    have hinner : (Json.object [("owner", .text owner)]).IsJoined :=
      ⟨Text.isJoined_of_isWellFormed hkeys.2, Text.isJoined_of_isWellFormed howner, trivial⟩
    exact ⟨Text.isJoined_of_isWellFormed hkeys.1, hinner, trivial⟩
  have hletters : Text.isWellFormed (List.replicate 50000 (CodePoint.ofChar 'a')) = true := by
    unfold Text.isWellFormed
    rw [List.all_replicate]
    decide
  have hzero : (Shape.optional Family.amountShape).Contains (.int 0) :=
    .field rfl (.some (.wide (n := 0) (by decide)))
  obtain ⟨v, hcreate, hm, hshares⟩ := hdecodes (List.replicate 50000 (CodePoint.ofChar 'a'))
  refine ⟨v, _, _, ⟨_, _, _, _, _, _, [], hcreate, rfl⟩, hm,
    ⟨hjoined _ hletters, rfl, hshares, hzero, isWellFormed_numeral 0⟩, ?_⟩
  intro session _
  apply smartQuery_of_long
  rw [List.length_replicate]
  decide

end Client

end ShareVault
