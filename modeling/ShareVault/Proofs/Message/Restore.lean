import ShareVault.Capability.Registry
import ShareVault.Proofs.Message.Payload
import ShareVault.Proofs.Wire.Table

/-! # Messages that a union restores

    What it takes for a message to survive writing and decoding: it has a normal
    form under a listed tag, all ways to write it decode to it, and so does the
    normal form with its surrogates joined only if there were none to join.

    A decoder of payloads restores its messages if the same holds of payloads
    under its tag. Variants, payloads for capabilities and messages of
    capabilities have such decoders.

    Main statements:
    - `Carries.restores`: a union whose members have such decoders restores all
      that it decodes;
    - `restores_payloadUnion`: so does the union of payloads for capabilities;
    - `restores_token`, `restores_expiration`, `restores_duration`: so do the
      unions that fields have as types.
-/

namespace ShareVault

/-! ## Ways to write a message -/

/-- The JSON values that write a message under its tag. -/
inductive Message.Written : Message → Json → Prop where
  | token {t : Token} {w : Json} (h : t.Written w) : Written (.token t) w
  | expiration {e : Expiration} {w : Json} (h : e.Written w) : Written (.expiration e) w
  | duration {d : Duration} {w : Json} (h : d.Written w) : Written (.duration d) w
  | variant {v : Variant} {values : List Value} {payload : Json} (h : v.Written values payload) :
    Written (.variant v values) (.object [(v.tag, payload)])
  | extension {f : Family} {inner : Message} {w : Json} (h : inner.Written w) :
    Written (.extension f inner) (.object [(Message.extensionTag, w)])
  | capability {name : Text} {inner : Message} {w : Json} (h : inner.Written w) :
    Written (.capability name inner) (.object [(name, w)])

/-- A union restores a message from its normal form, and from all else that
    writes it. -/
structure TaggedUnion.Restores (u : TaggedUnion Message) (m : Message) : Prop where
  fault : m.fault? = none
  plain : m.toWire.IsPlain
  listed : ∃ tag payload, m.toWire = .object [(tag, payload)] ∧ tag ∈ u.tags
  written : m.Written m.toWire
  decoded : ∀ w, m.Written w → u.decode w = .ok m
  joined : u.decode m.toWire.joined = .ok m → m.toWire.IsJoined

/-- A decoder restores a message from the payload of its normal form, which has a
    given tag, and from all other payloads under the tag that write it. -/
structure Decoder.Restores (d : Decoder Message) (tag : Text) (m : Message) : Prop where
  fault : m.fault? = none
  payload : ∃ q, m.toWire = .object [(tag, q)] ∧ q.IsPlain ∧ (d q.joined = .ok m → q.IsJoined)
  written : m.Written m.toWire
  decoded : ∀ w, m.Written w → ∃ q, w = .object [(tag, q)] ∧ d q = .ok m

/-! ## Members of unions -/

section Members

variable {u : TaggedUnion Message} {d : Decoder Message} {tag : Text} {m : Message}

/-- A union restores what a decoder in its table does, unless joining surrogates
    makes the tag another tag of the message. -/
theorem Decoder.Restores.union (hd : d.Restores tag m) (hfind : u.find? tag = some d)
    (hlisted : tag ∈ u.tags)
    (htag : ∀ e q, u.find? (Encoding.joinSurrogates tag) = some e → e q = .ok m →
      tag.isJoined = true) : u.Restores m := by
  obtain ⟨q, hwire, hplain, hq⟩ := hd.payload
  refine ⟨hd.fault, ?_, ⟨tag, q, hwire, hlisted⟩, hd.written, ?_, ?_⟩
  · rw [hwire]
    exact Json.isPlain_singleton hplain
  · intro w hw
    obtain ⟨p, rfl, hp⟩ := hd.decoded w hw
    rw [TaggedUnion.decode_singleton hfind]
    exact hp
  · intro hjoined
    rw [hwire, Json.joined_singleton] at hjoined
    obtain ⟨t, p, e, hobject, he, hp⟩ := TaggedUnion.decode_eq_ok.mp hjoined
    simp only [Json.object.injEq, List.cons.injEq, Prod.mk.injEq, and_true] at hobject
    obtain ⟨rfl, rfl⟩ := hobject
    -- The joined tag is that of a decoder of the message, so it is the tag itself.
    have hsame := htag e _ he hp
    rw [Encoding.joinSurrogates_eq_self_iff.mpr hsame, hfind, Option.some.injEq] at he
    rw [hwire]
    exact ⟨hsame, hq (by rw [he]; exact hp), trivial⟩

/-- A union whose members restore what they decode does so itself. -/
theorem TaggedUnion.Carries.restores {members : List (Text × Decoder Message)}
    (hu : u.Carries members) (htags : ∀ p ∈ members, p.1.isWellFormed = true)
    (hmembers : ∀ p ∈ members, ∀ q m, p.2 q = .ok m → Decoder.Restores p.2 p.1 m)
    {v : Json} (h : u.decode v = .ok m) : u.Restores m := by
  obtain ⟨tag, q, d, rfl, hd, hq⟩ := TaggedUnion.decode_eq_ok.mp h
  -- The tag may be an alias: the member has one of its own.
  obtain ⟨p, hp, rfl⟩ := List.mem_map.mp (hu.known tag d hd)
  refine (hmembers p hp q m hq).union (hu.found p hp) (hu.listed p hp) ?_
  intro _ _ _ _
  exact Text.isJoined_of_isWellFormed (htags p hp)

end Members

/-! ## Variants -/

theorem Variant.toWire_variant {v : Variant} (hv : v.IsProper) {values : List Value}
    {payload : Json} (h : v.Written values payload) :
    (Message.variant v values).toWire = .object [(v.tag, v.payload values)] := by
  unfold Message.toWire
  rw [Json.withoutNonFinite_eq_self (isPlain_payload hv h)]

theorem Variant.member_eq_ok {v : Variant} (hv : v.IsProper) {q : Json} {m : Message} :
    v.member.2 q = .ok m ↔ ∃ values, v.Written values q ∧ .variant v values = m := by
  unfold Variant.member
  simp only [Except.map_eq_ok, decodeValues_eq_ok hv]

theorem Variant.restores_member {v : Variant} (hv : v.IsProper) {q : Json} {m : Message}
    (h : v.member.2 q = .ok m) : Decoder.Restores v.member.2 v.tag m := by
  obtain ⟨values, hwritten, rfl⟩ := (member_eq_ok hv).mp h
  have hwire := toWire_variant hv hwritten
  refine ⟨fault?_eq_none hv hwritten, ⟨_, hwire, isPlain_payload hv hwritten, ?_⟩, ?_, ?_⟩
  · intro hjoined
    obtain ⟨others, hothers, heq⟩ := (member_eq_ok hv).mp hjoined
    injection heq with _ hvalues
    subst hvalues
    exact isJoined_of_written_joined hv hwritten hothers
  · rw [hwire]
    exact .variant (written_payload hv hwritten)
  · intro w hw
    cases hw with
    | variant hpayload => exact ⟨_, rfl, (member_eq_ok hv).mpr ⟨values, hpayload, rfl⟩⟩

/-! ## Messages around messages -/

/-- A kind of message that has another one under its tag and nothing else. -/
structure Message.IsWrapper (tag : Text) (wrap : Message → Message) : Prop where
  injective : ∀ m n, wrap m = wrap n → m = n
  fault : ∀ m, (wrap m).fault? = m.fault?
  wire : ∀ m, (wrap m).toWire = .object [(tag, m.toWire)]
  written : ∀ m w, (wrap m).Written w ↔ ∃ p, w = .object [(tag, p)] ∧ m.Written p

theorem Message.isWrapper_extension (f : Family) :
    IsWrapper extensionTag (Message.extension f) := by
  refine ⟨?_, fun _ => rfl, fun _ => rfl, ?_⟩
  · intro m n h
    injection h
  · intro m w
    constructor
    · intro h
      cases h with
      | extension hinner => exact ⟨_, rfl, hinner⟩
    · rintro ⟨p, rfl, hinner⟩
      exact .extension hinner

theorem Message.isWrapper_capability (name : Text) :
    IsWrapper name (Message.capability name) := by
  refine ⟨?_, fun _ => rfl, fun _ => rfl, ?_⟩
  · intro m n h
    injection h
  · intro m w
    constructor
    · intro h
      cases h with
      | capability hinner => exact ⟨_, rfl, hinner⟩
    · rintro ⟨p, rfl, hinner⟩
      exact .capability hinner

theorem Message.IsWrapper.restores {u : TaggedUnion Message} {tag : Text}
    {wrap : Message → Message} (hwrap : IsWrapper tag wrap)
    (hu : ∀ v m, u.decode v = .ok m → u.Restores m) {q : Json} {m : Message}
    (h : wrap <$> u.decode q = .ok m) :
    Decoder.Restores (fun p => wrap <$> u.decode p) tag m := by
  obtain ⟨inner, hinner, rfl⟩ := Except.map_eq_ok.mp h
  have hrestores := hu q inner hinner
  refine ⟨?_, ⟨_, hwrap.wire inner, hrestores.plain, ?_⟩, ?_, ?_⟩
  · rw [hwrap.fault]
    exact hrestores.fault
  · intro hjoined
    obtain ⟨other, hother, heq⟩ := Except.map_eq_ok.mp hjoined
    obtain rfl := hwrap.injective _ _ heq
    exact hrestores.joined hother
  · rw [hwrap.written]
    exact ⟨_, hwrap.wire inner, hrestores.written⟩
  · intro w hw
    obtain ⟨p, rfl, hp⟩ := (hwrap.written inner w).mp hw
    exact ⟨p, rfl, Except.map_eq_ok.mpr ⟨inner, hrestores.decoded p hp, rfl⟩⟩

/-! ## Payloads for capabilities -/

theorem Registry.payloadUnion_eq_ok {r : Registry} {f : Family} {wanted : List Text}
    {u : TaggedUnion Message} (h : r.payloadUnion f wanted = .ok u) :
    u.aliases = [] ∧ ∀ p ∈ u.decoders, ∃ c ∈ r, payloadMember f c = p := by
  unfold payloadUnion at h
  cases hnames : r.enabled wanted with
  | error name =>
    rw [hnames] at h
    cases h
  | ok names =>
    rw [hnames] at h
    cases h
    refine ⟨rfl, ?_⟩
    intro p hp
    obtain ⟨c, hc, rfl⟩ := List.mem_map.mp hp
    exact ⟨c, (List.mem_filter.mp hc).1, rfl⟩

/-- The union of payloads restores what the unions of the capabilities do. The
    names of capabilities may be any texts. -/
theorem Registry.restores_payloadUnion {r : Registry} {f : Family} {wanted : List Text}
    {u : TaggedUnion Message} (h : r.payloadUnion f wanted = .ok u)
    (hr : ∀ c ∈ r, ∀ v m, (c.union f).decode v = .ok m → (c.union f).Restores m) {v : Json}
    {m : Message} (hv : u.decode v = .ok m) : u.Restores m := by
  obtain ⟨haliases, hmembers⟩ := payloadUnion_eq_ok h
  obtain ⟨tag, q, d, rfl, hd, hq⟩ := TaggedUnion.decode_eq_ok.mp hv
  have hmem := TaggedUnion.mem_of_find? hd
  obtain ⟨c, hc, hmember⟩ := hmembers _ hmem
  obtain ⟨rfl, rfl⟩ := Prod.mk.inj hmember
  have hrestores := (Message.isWrapper_capability c.name).restores (hr c hc) hq
  refine hrestores.union hd ?_ ?_
  · rw [TaggedUnion.mem_tags_iff, haliases]
    exact ⟨TaggedUnion.contains_iff.mpr ⟨_, hmem⟩, List.not_mem_nil⟩
  · intro e p he hp
    -- A decoder puts the name of its own capability around the message.
    obtain ⟨other, _, hother⟩ := hmembers _ (TaggedUnion.mem_of_find? he)
    obtain ⟨hname, rfl⟩ := Prod.mk.inj hother
    obtain ⟨_, _, heq⟩ := Except.map_eq_ok.mp hp
    obtain ⟨_, _, heq'⟩ := Except.map_eq_ok.mp hq
    rw [← heq', Message.capability.injEq] at heq
    rw [heq.1] at hname
    exact Encoding.joinSurrogates_eq_self_iff.mp hname.symm

/-! ## Families -/

theorem Family.isProper_variants (f : Family) : ∀ v ∈ f.variants, v.IsProper := by
  have hall : f.variants.all Variant.isBasic = true := by
    cases f <;> decide +kernel
  intro v hv
  exact Variant.isProper_of_isBasic (List.all_eq_true.mp hall v hv)

theorem Family.nodup_tags (f : Family) :
    (f.variants.map Variant.tag ++ [Message.extensionTag]).Nodup := by
  cases f <;> decide +kernel

/-- A family has its variants, and payloads under the tag of extensions. -/
theorem Family.carries_union (f : Family) (payload : Decoder Message) :
    (f.union payload).Carries (f.variants.map Variant.member
      ++ [(Message.extensionTag, fun p => Message.extension f <$> payload p)]) := by
  have hnodup : ((f.variants.map Variant.member
      ++ [(Message.extensionTag, fun p => Message.extension f <$> payload p)]).map
        Prod.fst).Nodup := by
    rw [List.map_append, List.map_map]
    exact f.nodup_tags
  exact TaggedUnion.carries_build (TaggedUnion.build_ofMembers hnodup)

/-- A family restores the messages of its variants, whatever the payloads for
    capabilities are. -/
theorem Family.restores_variant {f : Family} (payload : Decoder Message) {w : Variant}
    (hw : w ∈ f.variants) {values : List Value} {p : Json} (h : w.Written values p) :
    (f.union payload).Restores (.variant w values) := by
  have hproper := f.isProper_variants w hw
  have hcarries := f.carries_union payload
  have hmember := List.mem_append_left
    [(Message.extensionTag, fun p => Message.extension f <$> payload p)]
    (List.mem_map_of_mem (f := Variant.member) hw)
  have hread : w.member.2 p = .ok (.variant w values) :=
    (Variant.member_eq_ok hproper).mpr ⟨values, h, rfl⟩
  refine (Variant.restores_member hproper hread).union (hcarries.found _ hmember)
    (hcarries.listed _ hmember) ?_
  intro _ _ _ _
  exact Text.isJoined_of_isWellFormed hproper.tag

/-- A family restores its own messages, and the payloads that its payload union
    restores. -/
theorem Family.restores_union {f : Family} {u : TaggedUnion Message}
    (hu : ∀ v m, u.decode v = .ok m → u.Restores m) {v : Json} {m : Message}
    (h : (f.union u.decode).decode v = .ok m) : (f.union u.decode).Restores m := by
  refine (f.carries_union u.decode).restores ?_ ?_ h
  · intro p hp
    rcases List.mem_append.mp hp with hvariant | hextension
    · obtain ⟨w, hw, rfl⟩ := List.mem_map.mp hvariant
      exact (f.isProper_variants w hw).tag
    · have htag : Message.extensionTag.isWellFormed = true := by decide
      rw [List.mem_singleton.mp hextension]
      exact htag
  · intro p hp q n hn
    rcases List.mem_append.mp hp with hvariant | hextension
    · obtain ⟨w, hw, rfl⟩ := List.mem_map.mp hvariant
      exact Variant.restores_member (f.isProper_variants w hw) hn
    · obtain rfl := List.mem_singleton.mp hextension
      exact (Message.isWrapper_extension f).restores hu hn

/-! ## Unions that fields have as types -/

theorem TaggedUnion.find?_map {α β : Type} (g : α → β) (u : TaggedUnion α) (tag : Text) :
    (u.map g).find? tag = (u.find? tag).map fun d v => g <$> d v := by
  unfold find? map
  induction u.decoders with
  | nil => rfl
  | cons p rest ih =>
    rw [List.map_cons, List.lookup_cons, List.lookup_cons]
    split
    · rfl
    · exact ih

theorem TaggedUnion.decode_map_eq_ok {α β : Type} {g : α → β} {u : TaggedUnion α} {v : Json}
    {b : β} : (u.map g).decode v = .ok b ↔ ∃ a, u.decode v = .ok a ∧ g a = b := by
  simp only [decode_eq_ok, find?_map, Option.map_eq_some_iff]
  constructor
  · rintro ⟨tag, q, _, rfl, ⟨d, hd, rfl⟩, h⟩
    obtain ⟨a, ha, rfl⟩ := Except.map_eq_ok.mp h
    exact ⟨a, ⟨tag, q, d, rfl, hd, ha⟩, rfl⟩
  · rintro ⟨a, ⟨tag, q, d, rfl, hd, ha⟩, rfl⟩
    exact ⟨tag, q, _, rfl, ⟨d, hd, rfl⟩, Except.map_eq_ok.mpr ⟨a, ha, rfl⟩⟩

theorem Token.restores_union {v : Json} {m : Message} (h : (union.map .token).decode v = .ok m) :
    (union.map Message.token).Restores m := by
  obtain ⟨t, ht, rfl⟩ := TaggedUnion.decode_map_eq_ok.mp h
  refine ⟨rfl, isPlain_toWire t, ?_, .token (written_toWire t), ?_, ?_⟩
  · cases t with
    | native denom => exact ⟨_, _, rfl, by decide⟩
    | synthetic address => exact ⟨_, _, rfl, by decide⟩
  · intro w hw
    cases hw with
    | token hwritten => exact TaggedUnion.decode_map_eq_ok.mpr ⟨t, decode_eq_ok.mpr hwritten, rfl⟩
  · intro hjoined
    obtain ⟨other, hother, heq⟩ := TaggedUnion.decode_map_eq_ok.mp hjoined
    injection heq with heq
    subst heq
    exact isJoined_of_written_joined (decode_eq_ok.mp hother)

theorem Expiration.restores_union {v : Json} {m : Message}
    (h : (union.map .expiration).decode v = .ok m) :
    (union.map Message.expiration).Restores m := by
  obtain ⟨e, he, rfl⟩ := TaggedUnion.decode_map_eq_ok.mp h
  have hfits := (decode_eq_ok.mp he).fits
  refine ⟨rfl, isPlain_toWire hfits, ?_, .expiration (written_toWire hfits), ?_, ?_⟩
  · cases e with
    | atHeight height => exact ⟨_, _, rfl, by decide⟩
    | atTime nanos => exact ⟨_, _, rfl, by decide⟩
    | never => exact ⟨_, _, rfl, by decide⟩
  · intro w hw
    cases hw with
    | expiration hwritten =>
      exact TaggedUnion.decode_map_eq_ok.mpr ⟨e, decode_eq_ok.mpr hwritten, rfl⟩
  · intro _
    exact isJoined_toWire e

theorem Duration.restores_union {v : Json} {m : Message}
    (h : (union.map .duration).decode v = .ok m) : (union.map Message.duration).Restores m := by
  obtain ⟨d, hd, rfl⟩ := TaggedUnion.decode_map_eq_ok.mp h
  have hfits := (decode_eq_ok.mp hd).fits
  refine ⟨rfl, isPlain_toWire hfits, ?_, .duration (written_toWire hfits), ?_, ?_⟩
  · cases d with
    | height blocks => exact ⟨_, _, rfl, by decide⟩
    | time seconds => exact ⟨_, _, rfl, by decide⟩
  · intro w hw
    cases hw with
    | duration hwritten =>
      exact TaggedUnion.decode_map_eq_ok.mpr ⟨d, decode_eq_ok.mpr hwritten, rfl⟩
  · intro _
    exact isJoined_toWire d

end ShareVault
