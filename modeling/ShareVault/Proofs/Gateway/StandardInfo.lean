import ShareVault.Proofs.Gateway.Served
import ShareVault.Proofs.Vault.StoredInfo

/-! # One answer on every way

    What a vault says about the standard can be had in four ways: by reading the
    storage, by asking the vault, and by a client that does either through a gateway.
    The bytes are written once, when the vault is created, so all ways lead to the same
    information as long as nobody writes to the storage.

    Main statements:
    - `standardInfo_asksFor`: a client gets the information on both ways;
    - `told_as_created`: in every state all ways lead to what the vault was created for,
      and whoever creates a vault for the same names stores the same bytes.
-/

namespace ShareVault

/-! ## Short paths -/

namespace Endpoint

/-- A path is as long as the contract and what is around it. -/
theorem length_path (contract : Text) (r : Route) :
    ((behind contract).path r).length = contract.length + ((behind []).path r).length := by
  have hfolder : (folder contract).length = contract.length + (folder []).length := by
    unfold folder
    simp only [List.length_append, List.length_nil]
    omega
  rw [path_eq, path_eq]
  simp only [List.length_append, hfolder]
  omega

end Endpoint

namespace Client

/-! ## Both ways of a client -/

/-- What a client asks a gateway for: the entry of the storage, or the query. -/
def standardInfoRoute : (raw : Bool) → Route
  | true => .raw Vault.standardInfoKey
  | false => .smart (Encoding.encodeUtf8
      (Message.variant Family.standardInfo []).toWire.messageText)

/-- For no more than this a path takes apart from the contract. -/
def routeRoom : Nat := 128

theorem length_standardInfoRoute_le (contract : Text) (raw : Bool) :
    ((Endpoint.behind contract).path (standardInfoRoute raw)).length
      ≤ contract.length + routeRoom := by
  have haround : ((Endpoint.behind []).path (standardInfoRoute raw)).length ≤ routeRoom := by
    cases raw with
    | true => decide +kernel
    | false => decide +kernel
  rw [Endpoint.length_path]
  omega

section Ways

variable {H : Type} [Handler H] {contract : Text}
  (hcontract : ∀ c ∈ contract, isAlphanumeric c = true) {v : Vault H}
  {session : Session (Served H)} (hsession : session.gateway = ⟨v⟩) {i : StandardInfo}
  (hfits : i.fits) (hnames : ∀ name ∈ i.extensions, name.isWellFormed = true)

include hcontract hsession hfits hnames

/-- The entry of the storage is sent, and the client loads it by the strict rules. -/
theorem standardInfo_asksFor_raw (h : v.Stores i) :
    AsksFor contract (.raw Vault.standardInfoKey) session
      (standardInfo (.behind contract) true) (.standardInfo i) := by
  have hkey : v.rawQuery Vault.standardInfoKey ≠ some [] := by
    have htext := Encoding.decodeUtf8_encodeUtf8 i.text
    rw [h.rawQuery]
    intro hempty
    -- The text of an object begins with a brace.
    rw [Option.some.inj hempty] at htext
    cases htext
  have hasks := rawQuery_asksFor hcontract hsession hkey
  rw [h.rawQuery] at hasks
  have hloaded := StandardInfo.loadText_text hfits hnames
  refine ⟨?_, ?_⟩
  · intro hlength
    obtain ⟨url, hurl, hroute, hresult⟩ := hasks.short hlength
    refine ⟨url, hurl, hroute, ?_⟩
    unfold standardInfo
    simp only [if_true, hresult, hloaded]
    rfl
  · intro hlength
    unfold standardInfo
    simp only [if_true, hasks.long hlength]

/-- The query is answered, and the client decodes the response. -/
theorem standardInfo_asksFor_smart (h : v.Stores i) {payload : Decoder Message}
    (hquestions : v.questions = Family.query.union payload) :
    AsksFor contract (standardInfoRoute false) session
      (standardInfo (.behind contract) false) (.standardInfo i) := by
  have hquery := h.query_standardInfo hfits hnames
  have hmem : Family.standardInfo ∈ Family.query.variants := List.mem_cons_self ..
  have hrestores : v.questions.Restores (.variant Family.standardInfo []) := by
    rw [hquestions]
    exact Family.restores_variant payload hmem Vault.written_standardInfo
  have hjoined : (Message.variant Family.standardInfo []).toWire.IsJoined :=
    Json.isJoined_of_isWellFormed (by decide +kernel)
  have hreplies : v.Replies (.variant Family.standardInfo []) .standardInfo (.standardInfo i) :=
    ⟨hjoined, rfl, by rw [hquery], .standardInfo hfits,
      StandardInfo.isWellFormed_toJson_of_extensions hnames⟩
  exact smartQuery_asksFor_of_same hcontract hsession (by rw [hquery]) hrestores rfl
    .standardInfo hreplies

theorem standardInfo_asksFor (h : v.Stores i) {payload : Decoder Message}
    (hquestions : v.questions = Family.query.union payload) (raw : Bool) :
    AsksFor contract (standardInfoRoute raw) session
      (standardInfo (.behind contract) raw) (.standardInfo i) := by
  cases raw with
  | true => exact standardInfo_asksFor_raw hcontract hsession hfits hnames h
  | false => exact standardInfo_asksFor_smart hcontract hsession hfits hnames h hquestions

end Ways

end Client

/-! ## Every state of a vault -/

namespace Vault

variable {H : Type} [Handler H]

/-- A vault can be created for any version of sixteen bits and for handlers under any
    known names without surrogates. Whatever happens then, apart from writes to the
    storage, the bytes in the storage and those of the answer to a query are the same,
    they are read as the version and the names in the order of registration, and so
    does a client get them on both ways. A vault that is created later, for handlers
    under the same names in any order, has the same storage. -/
theorem told_as_created {r : Registry} {version : Nat} {handlers : List (Text × H)}
    (hversion : version < twoTo 16)
    (hknown : ∀ name ∈ handlers.map Prod.fst, name ∈ r.names)
    (hnames : ∀ name ∈ handlers.map Prod.fst, name.isWellFormed = true)
    (baseToken vaultToken : Token) {terms : Terms} (hterms : terms.IsFair) :
    let info : StandardInfo := ⟨version, r.names.filter (handlers.map Prod.fst).contains⟩
    ∃ built, create r baseToken vaultToken terms (.int version) handlers = .ok built
      ∧ ∀ events : List (Event H), (∀ e ∈ events, Site.SparesStorage e) →
        let s := (Site.mk r built).after events
        s.vault.Tells info
        ∧ (∀ contract : Text, (∀ c ∈ contract, isAlphanumeric c = true) →
          contract.length + Client.routeRoom ≤ Address.maxLength →
          ∀ session : Session (Served H), session.gateway = ⟨s.vault⟩ → ∀ raw,
            ∃ url, Client.standardInfo (.behind contract) raw session
              = (.ok (.standardInfo info), session.asked url))
        ∧ ∀ (others : List (Text × H)) (baseToken' vaultToken' : Token) (terms' : Terms),
          (∀ name, name ∈ others.map Prod.fst ↔ name ∈ handlers.map Prod.fst) →
          terms'.IsFair →
          ∃ other, create s.registry baseToken' vaultToken' terms' (.int version) others = .ok other
            ∧ other.storage = s.vault.storage := by
  intro info
  obtain ⟨built, hbuilt, hstores⟩ := exists_create hversion hknown hnames baseToken vaultToken hterms
  have hfits : info.fits := hversion
  have hlisted : ∀ name ∈ info.extensions, name.isWellFormed = true := by
    intro name hname
    exact hnames name (List.contains_iff_mem.mp (List.mem_filter.mp hname).2)
  refine ⟨built, hbuilt, ?_⟩
  intro events hevents s
  have hlater : s.vault.Stores info := ((Site.mk r built).storage_after hevents).trans hstores
  have hs : s.IsBuilt (handlers.map Prod.fst) := (Site.isBuilt_of_create hbuilt).after events
  obtain ⟨payload, -, hquestions⟩ := Registry.union_eq_ok hs.questions
  refine ⟨tells_of_stores hfits hlisted hlater hquestions, ?_, ?_⟩
  · intro contract hcontract hroom session hsession raw
    have hlength := Client.length_standardInfoRoute_le contract raw
    have hasks := Client.standardInfo_asksFor hcontract hsession hfits hlisted hlater
      hquestions raw
    obtain ⟨url, -, -, hresult⟩ := hasks.short (hlength.trans hroom)
    exact ⟨url, hresult⟩
  · intro others baseToken' vaultToken' terms' hsame hterms'
    have hgrows : r.GrowsTo s.registry := (Site.mk r built).growsTo_after events
    have hknown' : ∀ name ∈ others.map Prod.fst, name ∈ r.names := by
      intro name hname
      exact hknown name ((hsame name).mp hname)
    obtain ⟨other, hother, hstored⟩ := exists_create hversion
      (fun name hname => hgrows.mem_names (hknown' name hname))
      (fun name hname => hnames name ((hsame name).mp hname)) baseToken' vaultToken' hterms'
    -- Neither the order of the handlers nor what was registered since changes the list.
    have hlist : s.registry.names.filter (others.map Prod.fst).contains = info.extensions := by
      rw [hgrows.filter_names_eq hknown']
      apply List.filter_congr
      intro name _
      rw [Bool.eq_iff_iff, List.contains_iff_mem, List.contains_iff_mem, hsame name]
    refine ⟨other, hother, ?_⟩
    rw [hlist] at hstored
    exact hstored.trans hlater.symm

/-- A capability is registered, and the vault is asked about the standard. -/
def askedEvents : List (Event KeeperList) := [.register pauseCapability, .query standardInfoQuery]

/-- Handlers for the capabilities that are always there, the last one first. -/
def backwardHandlers : List (Text × KeeperList) := [("keeper", .empty), ("lockup", .empty)]

theorem told_as_created_backward :
    (1 < twoTo 16 ∧ (∀ name ∈ backwardHandlers.map Prod.fst, name ∈ Registry.standard.names)
      ∧ (∀ name ∈ backwardHandlers.map Prod.fst, name.isWellFormed = true)
      ∧ Terms.IsFair ⟨30, none, none, true⟩)
    ∧ ∃ built s, create Registry.standard (.native "uosmo") (.synthetic "osmo1vault")
        ⟨30, none, none, true⟩ (.int 1) backwardHandlers = .ok built
      ∧ s = (Site.mk Registry.standard built).after askedEvents
      ∧ s.vault.Tells ⟨1, ["lockup", "keeper"]⟩
      ∧ (∀ raw, ∃ url, Client.standardInfo (.behind "osmo1vault") raw (.start (Served.mk s.vault))
        = (.ok (.standardInfo ⟨1, ["lockup", "keeper"]⟩),
          (Session.start (Served.mk s.vault)).asked url))
      ∧ ∃ other, create s.registry (.native "uatom") (.synthetic "osmo1other")
          ⟨0, none, none, true⟩ (.int 1) backwardHandlers.reverse = .ok other
        ∧ other.storage = s.vault.storage := by
  have hknown : ∀ name ∈ backwardHandlers.map Prod.fst, name ∈ Registry.standard.names := by decide
  have hnames : ∀ name ∈ backwardHandlers.map Prod.fst, name.isWellFormed = true := by decide
  have hterms : Terms.IsFair ⟨30, none, none, true⟩ := ⟨by decide, by decide⟩
  have hversion : 1 < twoTo 16 := by decide
  refine ⟨⟨hversion, hknown, hnames, hterms⟩, ?_⟩
  obtain ⟨built, hbuilt, htold⟩ := told_as_created hversion hknown hnames (.native "uosmo")
    (.synthetic "osmo1vault") hterms
  have hspares : ∀ e ∈ askedEvents, Site.SparesStorage e := by
    intro e he
    simp only [askedEvents, List.mem_cons, List.not_mem_nil, or_false] at he
    rcases he with rfl | rfl
    · trivial
    · trivial
  obtain ⟨htells, hclient, hother⟩ := htold askedEvents hspares
  have hcontract : ∀ c ∈ Text.ofString "osmo1vault", isAlphanumeric c = true := by
    rw [← List.all_eq_true]
    decide
  refine ⟨built, _, hbuilt, rfl, htells, hclient _ hcontract (by decide) _ rfl, ?_⟩
  apply hother
  · intro name
    rw [List.map_reverse, List.mem_reverse]
  · exact ⟨by decide, by decide⟩

end Vault

end ShareVault
