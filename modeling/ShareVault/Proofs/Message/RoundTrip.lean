import ShareVault.Proofs.Json.Bytes
import ShareVault.Proofs.Message.Untrusted

/-! # Messages written and read back

    A message that was decoded has one normal form, which is written to bytes and
    read back. What is read is the message again exactly if no text in it has the
    first half of a surrogate pair right before a second half: written as two
    escapes these are one code point to the reader.

    This holds of unions of proper variants under any aliases, of the unions that
    fields have as types, and of the families over payloads for capabilities that
    are made of such unions.

    Main statement: `read_text_iff_isJoined`.
-/

namespace ShareVault

namespace TaggedUnion

/-- Unions that are made of proper variants, the families over them included. -/
inductive IsWired : TaggedUnion Message → Prop where
  /-- Proper variants, each under its tag, and further names for the tags. -/
  | variants {name : Text} {base : Base} {vs : List Variant} {aliases : List (Text × Text)}
      {u : TaggedUnion Message} (hproper : ∀ v ∈ vs, v.IsProper)
      (hbuild : build name base (vs.map Variant.member) aliases = .ok u) : IsWired u
  | token : IsWired (Token.union.map .token)
  | expiration : IsWired (Expiration.union.map .expiration)
  | duration : IsWired (Duration.union.map .duration)
  /-- The payloads for some of the known capabilities. -/
  | payload {r : Registry} {f : Family} {wanted : List Text} {u : TaggedUnion Message}
      (hr : ∀ c ∈ r, IsWired (c.union f)) (hu : r.payloadUnion f wanted = .ok u) : IsWired u
  /-- A family over a union of payloads. -/
  | family {f : Family} {u : TaggedUnion Message} (hu : IsWired u) : IsWired (f.union u.decode)

/-- A family over the payloads for some of the known capabilities. -/
theorem isWired_union {r : Registry} {f : Family} {wanted : List Text} {u : TaggedUnion Message}
    (hr : ∀ c ∈ r, (c.union f).IsWired) (hu : r.union f wanted = .ok u) : u.IsWired := by
  unfold Registry.union at hu
  cases hpayload : r.payloadUnion f wanted with
  | error name =>
    rw [hpayload] at hu
    cases hu
  | ok w =>
    rw [hpayload] at hu
    cases hu
    exact .family (.payload hr hpayload)

/-- Basic variants with different tags and no aliases. -/
theorem isWired_ofMembers {name : Text} {base : Base} {vs : List Variant}
    (hbasic : vs.all Variant.isBasic = true) (hnodup : (vs.map Variant.tag).Nodup) :
    (ofMembers name base (vs.map Variant.member)).IsWired := by
  refine .variants ?_ (build_ofMembers ?_)
  · intro v hv
    exact Variant.isProper_of_isBasic (List.all_eq_true.mp hbasic v hv)
  · rw [List.map_map]
    exact hnodup

/-- The unions of the capabilities that are always there. -/
theorem isWired_of_mem_standard (f : Family) : ∀ c ∈ Registry.standard, (c.union f).IsWired := by
  intro c hc
  simp only [Registry.standard, List.mem_cons, List.not_mem_nil, or_false] at hc
  rcases hc with rfl | rfl
  · cases f with
    | execute => exact isWired_ofMembers (by decide +kernel) (by decide +kernel)
    | query => exact isWired_ofMembers (by decide +kernel) (by decide +kernel)
  · cases f with
    | execute => exact isWired_ofMembers (by decide +kernel) (by decide +kernel)
    | query => exact isWired_ofMembers (by decide +kernel) (by decide +kernel)

theorem IsWired.restores {u : TaggedUnion Message} (hu : u.IsWired) :
    ∀ v m, u.decode v = .ok m → u.Restores m := by
  induction hu with
  | variants hproper hbuild =>
    intro v m h
    -- Aliases add no decoders, so the members are all that has to be looked at.
    refine (carries_build hbuild).restores ?_ ?_ h
    · intro p hp
      obtain ⟨w, hw, rfl⟩ := List.mem_map.mp hp
      exact (hproper w hw).tag
    · intro p hp q n hn
      obtain ⟨w, hw, rfl⟩ := List.mem_map.mp hp
      exact Variant.restores_member (hproper w hw) hn
  | token =>
    intro v m h
    exact Token.restores_union h
  | expiration =>
    intro v m h
    exact Expiration.restores_union h
  | duration =>
    intro v m h
    exact Duration.restores_union h
  | payload hr hu ih =>
    intro v m h
    exact Registry.restores_payloadUnion hu ih h
  | family hu ih =>
    intro v m h
    exact Family.restores_union ih h

/-! ## Writing and reading -/

variable {u : TaggedUnion Message} {m : Message}

theorem Restores.text_eq_ok (h : u.Restores m) : m.text = .ok m.toWire.messageText := by
  unfold Message.text
  rw [h.fault]

/-- The bytes of the normal form are decoded with surrogates joined. -/
theorem Restores.read_messageText (h : u.Restores m) :
    u.read .unlimited (.bytes (Encoding.encodeUtf8 m.toWire.messageText))
      = (u.decode m.toWire.joined).mapError .decode := by
  unfold TaggedUnion.read
  rw [Json.json_messageText h.plain]

theorem Restores.read_messageText_iff (h : u.Restores m) :
    u.read .unlimited (.bytes (Encoding.encodeUtf8 m.toWire.messageText)) = .ok m
      ↔ m.toWire.IsJoined := by
  rw [h.read_messageText, Except.mapError_eq_ok]
  constructor
  · exact h.joined
  · intro hjoined
    rw [Json.joined_eq_self h.plain hjoined]
    exact h.decoded _ h.written

/-- A decoded message has a text. Its bytes are read as the message exactly if it has no
    surrogates to join, wherever there is room for its nesting. Its JSON value is a normal
    form under a listed tag: this and all else that writes the message decode to it. -/
theorem read_text_iff_isJoined (hu : u.IsWired) {v : Json} (h : u.decode v = .ok m) :
    (∃ t, m.text = .ok t
        ∧ (u.read .unlimited (.bytes (Encoding.encodeUtf8 t)) = .ok m ↔ m.toWire.IsJoined)
        ∧ ∀ room, u.read room (.bytes (Encoding.encodeUtf8 t))
            = u.read .unlimited (.bytes (Encoding.encodeUtf8 t))
          ∨ u.read room (.bytes (Encoding.encodeUtf8 t)) = .error .tooDeep)
      ∧ (∃ tag payload, m.toWire = .object [(tag, payload)] ∧ tag ∈ u.tags)
      ∧ u.decode m.toWire = .ok m
      ∧ ∀ w, m.Written w → u.decode w = .ok m := by
  have hrestores := hu.restores v m h
  refine ⟨⟨_, hrestores.text_eq_ok, hrestores.read_messageText_iff, ?_⟩, hrestores.listed, ?_,
    hrestores.decoded⟩
  · intro room
    exact read_agrees u room _
  · exact hrestores.decoded _ hrestores.written

/-- A query for the first ten lockups of an owner. -/
def lockupsPage : Message :=
  .extension .query (.capability "lockup"
    (.variant Capability.Lockup.lockups [.text "osmo1alice", .null, .int 10]))

/-- The query with its members in another order, and without what may be null. -/
def lockupsPageShort : Json :=
  .object [("vault_extension", .object [("lockup", .object [("lockups",
    .object [("limit", .int 10), ("owner", .text "osmo1alice")])])])]

theorem read_text_lockupsPage :
    ∃ u, Registry.standard.union .query Registry.defaultNames = .ok u
      ∧ u.IsWired ∧ u.decode lockupsPageShort = .ok lockupsPage
      ∧ (∃ t, lockupsPage.text = .ok t
        ∧ u.read .unlimited (.bytes (Encoding.encodeUtf8 t)) = .ok lockupsPage)
      ∧ u.decode lockupsPage.toWire = .ok lockupsPage := by
  have hwired : ∀ {u}, Registry.standard.union .query Registry.defaultNames = .ok u → u.IsWired :=
    isWired_union (isWired_of_mem_standard .query)
  have hjoined : lockupsPage.toWire.IsJoined := Json.isJoined_of_isWellFormed (by decide +kernel)
  refine ⟨_, rfl, hwired rfl, rfl, ?_⟩
  obtain ⟨⟨t, ht, hread, -⟩, -, hdecode, -⟩ :=
    read_text_iff_isJoined (m := lockupsPage) (hwired rfl) (v := lockupsPageShort) rfl
  exact ⟨⟨t, ht, hread.mpr hjoined⟩, hdecode⟩

/-- A text of two surrogates that would be a pair. -/
def splitOwner : Text := [CodePoint.ofNat 0xD800, CodePoint.ofNat 0xDC00]

/-- The two surrogates of an owner are read back as the one code point that they
    stand for as a pair. -/
theorem read_text_splitOwner :
    ∃ u m t, Registry.standard.union .query Registry.defaultNames = .ok u
      ∧ u.decode (.object [("max_redeem", .object [("owner", .text splitOwner)])]) = .ok m
      ∧ m.text = .ok t
      ∧ u.read .unlimited (.bytes (Encoding.encodeUtf8 t))
        = .ok (.variant Family.maxRedeem [.text [CodePoint.ofNat 0x10000]])
      ∧ u.read .unlimited (.bytes (Encoding.encodeUtf8 t)) ≠ .ok m := by
  have hwired : ∀ {u}, Registry.standard.union .query Registry.defaultNames = .ok u → u.IsWired :=
    isWired_union (isWired_of_mem_standard .query)
  have hrestores := (hwired rfl).restores
    (.object [("max_redeem", .object [("owner", .text splitOwner)])])
    (.variant Family.maxRedeem [.text splitOwner]) rfl
  refine ⟨_, _, _, rfl, rfl, hrestores.text_eq_ok, ?_, ?_⟩
  · rw [hrestores.read_messageText]
    rfl
  · rw [ne_eq, hrestores.read_messageText_iff]
    rintro ⟨-, ⟨-, howner, -⟩, -⟩
    have hsplit : splitOwner.isJoined = true := howner
    exact absurd hsplit (by decide)

end TaggedUnion

end ShareVault
