import ShareVault.Proofs.Capability.Composition
import ShareVault.Proofs.Json.StrictText
import ShareVault.Proofs.Message.Exchange
import ShareVault.Proofs.Vault.Site

/-! # What a vault stores about itself

    When a vault is created it writes down which standard it follows. It is asked for
    that later, and then reads what is in the storage by the strict rules and writes it
    anew. So there are two texts, and they are the same: what was written is strict,
    it is read as the information it was written for, and there is one text for that.

    The text depends on the version and on the set of names alone. The order in which
    the handlers are given does not matter, and neither do later registrations.

    Main statements:
    - `exists_create`: what a vault is created for is what it stores;
    - `tells_of_stores`: a vault that stores the information tells it.
-/

namespace ShareVault

/-! ## The text of the information -/

namespace StandardInfo

/-- The information in the style of values. -/
def text (i : StandardInfo) : Text := i.toJson.write .value

theorem isWellFormed_toJson_of_extensions {i : StandardInfo}
    (h : ∀ name ∈ i.extensions, name.isWellFormed = true) : i.toJson.isWellFormed = true := by
  have hnames : (Json.array (i.extensions.map .text)).isWellFormed = true := by
    rw [Json.isWellFormed_array_iff, List.forall_mem_map]
    exact h
  unfold toJson
  rw [Json.isWellFormed_object_iff]
  simp only [List.forall_mem_cons]
  exact ⟨⟨by decide, rfl⟩, ⟨by decide, hnames⟩, fun _ h => absurd h List.not_mem_nil⟩

theorem depthItems_texts (ts : List Text) : Json.depthItems (ts.map .text) ≤ 1 := by
  induction ts with
  | nil => exact Nat.zero_le 1
  | cons t ts ih => exact Nat.max_le.mpr ⟨Nat.le_refl 1, ih⟩

/-- The names stand in a list, and the list in an object. -/
theorem depth_toJson_le (i : StandardInfo) : i.toJson.depth ≤ 2 := by
  have hnames := depthItems_texts i.extensions
  have hdepth : i.toJson.depth
      = max (0 + 1) (max (Json.depthItems (i.extensions.map .text) + 1) 0) := rfl
  omega

/-- The bytes of the text are loaded by the strict rules as the information. -/
theorem loadText_text {i : StandardInfo} (hfits : i.fits)
    (hnames : ∀ name ∈ i.extensions, name.isWellFormed = true) :
    Shape.standardInfo.loadText (Json.parseStrictBytes? (Encoding.encodeUtf8 i.text))
      = .ok (.standardInfo i) := by
  have hlimit : 2 ≤ Json.maxDepth := by decide
  have hparsed := Json.parseStrictBytes?_write (isPlain_toJson hfits)
    (isWellFormed_toJson_of_extensions hnames) (i.depth_toJson_le.trans hlimit)
  unfold text
  rw [hparsed]
  exact Except.map_eq_ok.mpr ⟨i, read_toJson .text hfits, rfl⟩

/-- It is the text of the response that is the information. -/
theorem encodeResponse_eq_text {i : StandardInfo}
    (hnames : ∀ name ∈ i.extensions, name.isWellFormed = true) :
    Message.encodeResponse (.variant Family.standardInfo []) (.standardInfo i) = .ok i.text :=
  (Message.encodeResponse_eq_ok rfl).mpr
    ((Shape.dumpText?_eq_some_iff .standardInfo).mpr
      ⟨isWellFormed_toJson_of_extensions hnames, rfl⟩)

end StandardInfo

/-! ## Creation -/

/-- Known names are listed in the order of registration. -/
theorem Registry.standardInfo_of_known {r : Registry} {version : Nat} {wanted : List Text}
    (hversion : version < twoTo 16) (hknown : ∀ name ∈ wanted, name ∈ r.names) :
    r.standardInfo (.int version) wanted = .ok ⟨version, r.names.filter wanted.contains⟩ :=
  standardInfo_eq_ok.mpr ⟨enabled_eq_ok.mpr ⟨hknown, rfl⟩, Reader.word_eq_ok.mpr ⟨rfl, hversion⟩⟩

namespace Vault

variable {H : Type}

/-- The storage has the information under the key for it, and nothing else. -/
def Stores (v : Vault H) (i : StandardInfo) : Prop :=
  v.storage = [(standardInfoKey, Encoding.encodeUtf8 i.text)]

/-- A vault can be created for any version in range and any known names that can be
    written, and that is what it stores. -/
theorem exists_create {r : Registry} {version : Nat} {handlers : List (Text × H)}
    (hversion : version < twoTo 16)
    (hknown : ∀ name ∈ handlers.map Prod.fst, name ∈ r.names)
    (hnames : ∀ name ∈ handlers.map Prod.fst, name.isWellFormed = true)
    (baseToken vaultToken : Token) {terms : Terms} (hterms : terms.IsFair) :
    ∃ v, create r baseToken vaultToken terms (.int version) handlers = .ok v
      ∧ v.Stores ⟨version, r.names.filter (handlers.map Prod.fst).contains⟩ := by
  have hfee : ¬ (terms.feeBps < 0 ∨ Terms.bpsWhole ≤ terms.feeBps) := by
    obtain ⟨hnonneg, hwhole⟩ := hterms
    omega
  have hinfo := Registry.standardInfo_of_known hversion hknown
  have hlisted : ∀ name ∈ r.names.filter (handlers.map Prod.fst).contains, name ∈ r.names := by
    intro name hname
    exact (List.mem_filter.mp hname).1
  obtain ⟨_, -, hcommands⟩ := Registry.exists_union .execute hlisted
  obtain ⟨_, -, hquestions⟩ := Registry.exists_union .query hlisted
  -- Only names of handlers are written, so there is a text.
  have htext : (StandardInfo.mk version (r.names.filter (handlers.map Prod.fst).contains)).toJson.valueText?
      = some (StandardInfo.mk version (r.names.filter (handlers.map Prod.fst).contains)).text := by
    refine if_pos (StandardInfo.isWellFormed_toJson_of_extensions ?_)
    intro name hname
    exact hnames name (List.contains_iff_mem.mp (List.mem_filter.mp hname).2)
  unfold create
  rw [if_neg hfee]
  simp only [hinfo, hcommands, hquestions, htext]
  exact ⟨_, rfl, rfl⟩

/-! ## Reading and asking -/

/-- The query for the standard that a vault follows, from the outside. -/
def standardInfoQuery : Json := .object [("vault_standard_info", .object [])]

theorem written_standardInfo : Family.standardInfo.Written [] (.object []) :=
  .struct rfl (fun _ hk => absurd hk List.not_mem_nil) .nil

/-- The text of the information is what is stored and what is answered. It is loaded as
    the information by the rules for stored records and by those for responses. -/
structure Tells [Handler H] (v : Vault H) (i : StandardInfo) : Prop where
  stored : v.rawQuery standardInfoKey = some (Encoding.encodeUtf8 i.text)
  answered : v.queryWire standardInfoQuery = (.ok i.text, v)
  loaded : Shape.standardInfo.loadText (Json.parseStrictBytes? (Encoding.encodeUtf8 i.text))
    = .ok (.standardInfo i)
  read : Message.IsReadAs (.variant Family.standardInfo []) i.text (.standardInfo i)

section Tells

variable {v : Vault H} {i : StandardInfo}

theorem Stores.rawQuery (h : v.Stores i) :
    v.rawQuery standardInfoKey = some (Encoding.encodeUtf8 i.text) := by
  unfold Vault.rawQuery
  rw [h]
  exact List.lookup_cons_self

variable [Handler H] (hfits : i.fits) (hnames : ∀ name ∈ i.extensions, name.isWellFormed = true)

include hfits hnames

/-- Asked for the standard, the vault loads what it has stored and is as before. -/
theorem Stores.query_standardInfo (h : v.Stores i) :
    v.query (.variant Family.standardInfo []) = (.ok (.standardInfo i), v) := by
  have hinfo : v.storedInfo = .ok (.standardInfo i) := by
    unfold storedInfo
    rw [h.rawQuery, Option.bind_some]
    exact StandardInfo.loadText_text hfits hnames
  have hmeans : Question.ofMessage? (.variant Family.standardInfo []) = some .standardInfo :=
    Question.ofMessage?_toMessage .standardInfo
  unfold query
  simp only [hmeans, ask, hinfo]
  rfl

/-- A vault that stores the information and has the queries of the family tells it. -/
theorem tells_of_stores (h : v.Stores i) {payload : Decoder Message}
    (hquestions : v.questions = Family.query.union payload) : v.Tells i := by
  have hmem : Family.standardInfo ∈ Family.query.variants := List.mem_cons_self ..
  have hdecode : v.questions.decode standardInfoQuery = .ok (.variant Family.standardInfo []) := by
    rw [hquestions]
    exact Family.decode_union_toWire hmem written_standardInfo
  have hencoded := StandardInfo.encodeResponse_eq_text hnames
  have hcontains : Shape.Contains .standardInfo (.standardInfo i) := .standardInfo hfits
  refine ⟨h.rawQuery, ?_, StandardInfo.loadText_text hfits hnames, ?_⟩
  · rw [queryWire_of_decode hdecode, h.query_standardInfo hfits hnames]
    show ((Message.encodeResponse _ (.standardInfo i)).mapError _, v) = _
    rw [hencoded]
    rfl
  · exact (Message.encodeResponse_roundTrips rfl (hcontains.roundTrips .standardInfo)).2 _ hencoded

end Tells

end Vault

end ShareVault
