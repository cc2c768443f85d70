import ShareVault.Proofs.Gateway.Shared

/-! # What a vault in use says about itself

    Deposits, redeems and whatever a capability does change the accounts of a vault and the
    state of its handlers. What it says about itself stays: the standard that it follows
    and its tokens. So a client that asks for these gets the same in every turn, if only
    the transport lets one of its attempts through.

    Main statements:
    - `Vault.presents_of_reachable`: every vault that some run leads to says something;
    - `Client.standardInfo_inUse`, `Client.info_inUse`: and a client gets it.
-/

namespace ShareVault

namespace Vault

variable {H : Type} [Handler H]

/-- What a vault says about itself, which no act changes: it stores the standard that it
    follows, its tokens can be written, and it takes the questions of its family. -/
structure Presents (v : Vault H) (i : StandardInfo) : Prop where
  stores : v.Stores i
  fits : i.fits
  names : ∀ name ∈ i.extensions, name.isWellFormed = true
  tokens : v.info.toJson.isWellFormed = true
  questions : ∃ payload, v.questions = Family.query.union payload

variable {v : Vault H} {i : StandardInfo}

theorem Presents.act (h : v.Presents i) (a : Act) : (v.act a).Presents i := by
  obtain ⟨ledger, handlers, hact⟩ := v.act_frame a
  rw [hact]
  exact ⟨h.stores, h.fits, h.names, h.tokens, h.questions⟩

theorem Presents.after (h : v.Presents i) (acts : List Act) : (v.after acts).Presents i := by
  induction acts generalizing v with
  | nil => exact h
  | cons a acts ih => exact ih (h.act a)

theorem info_after (v : Vault H) (acts : List Act) : (v.after acts).info = v.info := by
  induction acts generalizing v with
  | nil => rfl
  | cons a acts ih =>
    obtain ⟨ledger, handlers, hact⟩ := v.act_frame a
    unfold after
    rw [ih, hact]

omit [Handler H] in
/-- A new vault has written down the standard that it follows. -/
theorem IsNew.presents (h : v.IsNew) (htokens : v.info.toJson.isWellFormed = true) :
    ∃ i, v.Presents i := by
  have hquestions := h.made.2.2
  obtain ⟨r, baseToken, vaultToken, terms, version, handlers, h⟩ := h
  obtain ⟨-, i, commands, questions, text, hinfo, -, -, htext, rfl⟩ := create_eq_ok h
  obtain ⟨-, hversion⟩ := Reader.word_eq_ok.mp (Registry.standardInfo_eq_ok.mp hinfo).2
  unfold Json.valueText? at htext
  split at htext
  case isFalse => cases htext
  case isTrue hwell =>
    -- What was written has no surrogates, so neither have the names in it.
    rw [StandardInfo.toJson, Json.isWellFormed_object_iff] at hwell
    have hlist : (Json.array (i.extensions.map .text)).isWellFormed = true :=
      (hwell _ (List.mem_cons_of_mem _ (List.mem_singleton_self _))).2
    rw [Json.isWellFormed_array_iff, List.forall_mem_map] at hlist
    refine ⟨i, ?_, hversion, hlist, htokens, hquestions⟩
    unfold Stores
    rw [← Option.some.inj htext]
    rfl

/-- So has every vault that a run leads to. -/
theorem presents_of_reachable (h : v.Reachable) (htokens : v.info.toJson.isWellFormed = true) :
    ∃ i, v.Presents i := by
  obtain ⟨start, past, hnew, -, rfl⟩ := h
  rw [info_after] at htokens
  obtain ⟨i, hpresents⟩ := hnew.presents htokens
  exact ⟨i, hpresents.after past⟩

end Vault

/-! ## Clients -/

/-- The gateway after some more requests. -/
def Shared.ahead {H : Type} [Handler H] (g : Shared H) : (requests : Nat) → Shared H
  | 0 => g
  | k + 1 => (g.ahead k).afterAnswer

namespace Client

variable {H : Type} [Handler H] {s : Session (Shared H)} {i : StandardInfo}
  (hpresents : s.gateway.vault.Presents i) {contract : Text}
  (hcontract : ∀ c ∈ contract, isAlphanumeric c = true)
  (hroom : contract.length + routeRoom ≤ Address.maxLength)
  (hdrops : Turn.drops s.gateway.coming < Session.maxAttempts)

include hpresents in
theorem presents_atAnswer : s.gateway.atAnswer.Presents i := hpresents.after _

include hpresents hcontract hroom hdrops

/-- The stored information arrives, whatever is done to the vault meanwhile. -/
theorem standardInfo_inUse :
    ∃ s', standardInfo (.behind contract) true s = (.ok (.standardInfo i), s')
      ∧ s'.gateway = s.gateway.afterAnswer := by
  have hnow : s.gateway.atAnswer.Presents i := presents_atAnswer hpresents
  have hstored := hnow.stores.rawQuery
  have hlength := length_standardInfoRoute_le contract true
  have hplain : (Json.text (Base64.encode (Encoding.encodeUtf8 i.text))).IsPlain := trivial
  have hask := s.gateway.atAnswer.ask_raw Vault.standardInfoKey
  rw [hstored, Option.getD_some] at hask
  obtain ⟨s', hfetch, hgateway⟩ :=
    Session.fetch_shared hplain hask hcontract (hlength.trans hroom) hdrops
  have hnonempty : some (Encoding.encodeUtf8 i.text) ≠ some [] := by
    have htext := Encoding.decodeUtf8_encodeUtf8 i.text
    intro hempty
    -- The text of an object begins with a brace.
    rw [Option.some.inj hempty] at htext
    cases htext
  have hraw : rawQuery (.behind contract) Vault.standardInfoKey s
      = (.ok (some (Encoding.encodeUtf8 i.text)), s') :=
    Session.check_eq_ok_iff.mpr ⟨_, hfetch, entryOf_encode _ hnonempty⟩
  refine ⟨s', ?_, hgateway⟩
  unfold standardInfo
  simp only [if_true, hraw, StandardInfo.loadText_text hnow.fits hnow.names]
  rfl

/-- So do the tokens. -/
theorem info_inUse :
    ∃ s', askWith (.behind contract) Family.info [] s
        = (.ok (.vaultInfo s.gateway.vault.info), s')
      ∧ s'.gateway = s.gateway.afterAnswer := by
  have hnow : s.gateway.atAnswer.Presents i := presents_atAnswer hpresents
  have hsame : s.gateway.atAnswer.info = s.gateway.vault.info := Vault.info_after ..
  obtain ⟨payload, hquestions⟩ := hnow.questions
  have hmem : Family.info ∈ Family.query.variants :=
    List.mem_cons_of_mem _ (List.mem_cons_self ..)
  have hwritten : Family.info.Written [] (.object []) :=
    .struct rfl (fun _ hk => absurd hk List.not_mem_nil) .nil
  have hrestores : s.gateway.atAnswer.questions.Restores Family.info.bare := by
    rw [hquestions]
    exact Family.restores_variant payload hmem hwritten
  -- The vault of the turn answers, and says what the vault before it would have said.
  have hquery : s.gateway.atAnswer.query Family.info.bare
      = (.ok (.vaultInfo s.gateway.vault.info), s.gateway.atAnswer) := by
    rw [← hsame]
    unfold Vault.query
    rw [show Question.ofMessage? Family.info.bare = some .info from
      Question.ofMessage?_toMessage .info]
    rfl
  have hjoined : Family.info.bare.toWire.IsJoined :=
    Json.isJoined_of_isWellFormed (by decide +kernel)
  have hcontains : Shape.Contains .vaultInfo (.vaultInfo s.gateway.vault.info) := .vaultInfo _
  have hwell : (Shape.vaultInfo.dump (.vaultInfo s.gateway.vault.info)).isWellFormed = true :=
    hpresents.tokens
  have hask := Vault.ask_smart_of_answer (by rw [hquery]) hrestores hjoined rfl .vaultInfo
    (by rw [hquery]) hwell
  have hlength : ((Endpoint.behind contract).path Family.info.bareRoute).length
      ≤ Address.maxLength := by
    have haround : ((Endpoint.behind []).path Family.info.bareRoute).length ≤ routeRoom := by
      decide +kernel
    rw [Endpoint.length_path]
    omega
  obtain ⟨s', hfetch, hgateway⟩ :=
    Session.fetch_shared hcontains.isPlain_dump hask hcontract hlength hdrops
  have hexchange : askWith (.behind contract) Family.info [] s
      = Session.check (Session.fetch (.behind contract) Family.info.bareRoute)
          (responseOf Family.info.bare) s := by
    show smartQuery (.behind contract) Family.info.bare s = _
    unfold smartQuery
    rw [hrestores.text_eq_ok]
    rfl
  refine ⟨s', ?_, hgateway⟩
  rw [hexchange, Session.check_eq_ok_iff]
  exact ⟨_, hfetch, responseOf_dump rfl hcontains⟩

omit hpresents hcontract hroom hdrops in
/-- A request that is dropped in all its attempts fails, and so does a client that begins
    with it. -/
theorem standardInfo_lost (hlost : Session.maxAttempts ≤ Turn.drops s.gateway.coming)
    (e : Endpoint) : ∃ f s', standardInfo e true s = (.error f, s') := by
  have hfetch : ∃ f s', Session.fetch e (.raw Vault.standardInfoKey) s = (.error f, s') := by
    unfold Session.fetch
    cases hurl : e.url (.raw Vault.standardInfoKey) with
    | error f => exact ⟨_, s, rfl⟩
    | ok url =>
      obtain ⟨f, s', hattempts⟩ := Session.attempts_lost rfl (Nat.lt_of_succ_le hlost)
      exact ⟨_, s', hattempts⟩
  obtain ⟨f, s', hfetch⟩ := hfetch
  refine ⟨f, s', ?_⟩
  unfold standardInfo rawQuery Session.check
  simp only [if_true, hfetch]
  rfl

end Client

end ShareVault
