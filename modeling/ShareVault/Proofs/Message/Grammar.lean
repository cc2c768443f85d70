import ShareVault.Proofs.Message.Restore

/-! # The grammar of messages

    Which JSON values are messages of a family is said here without a decoder. A
    message is an object with the tag of a variant as its only key; the payload has
    a value of the right type for each field, and no other keys. A field with a
    default may be left out. A message for a capability is such an object under two
    more keys, the tag of extensions and the name of the capability.

    The decoder accepts exactly these values. What it does not accept is malformed,
    but for one case: the object is for a capability that is not wanted.

    Main statements:
    - `exists_member_iff_accepts`: which payloads the decoder of a variant accepts;
    - `exists_decode_union_iff`, `decode_union_eq_unsupported_iff`: what a family
      makes of the payloads for capabilities;
    - `decode_iff_isMessage`: what a family decodes, and the faults of the rest.
-/

namespace ShareVault

namespace Shape

/-- The JSON values of types that are numbers and texts. -/
inductive Accepts : Shape → Json → Prop where
  /-- An integer or a numeral, of a number that fits. -/
  | wide {bits n : Nat} {v : Json} (hwritten : WideWritten n v) (hfits : n < twoTo bits) :
    Accepts (.wide bits) v
  /-- An integer that fits. -/
  | word {bits n : Nat} (hfits : n < twoTo bits) : Accepts (.word bits) (.int n)
  /-- Any text, with or without surrogates. -/
  | text (t : Text) : Accepts .text (.text t)
  | null {s : Shape} : Accepts (.optional s) .null
  | some {s : Shape} {v : Json} (h : Accepts s v) : Accepts (.optional s) v

/-- Whether the values of a type are numbers or texts, or may be missing. -/
def isScalar : Shape → Bool
  | .wide bits => bits < Json.maxDigits
  | .word bits => bits < Json.maxDigits
  | .text => true
  | .optional s => isScalar s
  | _ => false

end Shape

/-! ## Payloads -/

/-- A field has a value of its type among the members, or is left out for its
    default. -/
def Field.Accepts (f : Field) (m : Members) : Prop :=
  (∃ v, m.get? f.name = some v ∧ f.shape.Accepts v) ∨ (m.get? f.name = none ∧ f.default ≠ none)

namespace Variant

/-- The payload is an object with no key but the names of fields, and accepted by
    each field. -/
def Accepts (w : Variant) (payload : Json) : Prop :=
  ∃ m, payload = .object m ∧ (∀ k ∈ Members.keys m, k ∈ w.fields.map Field.name)
    ∧ ∀ f ∈ w.fields, f.Accepts m

/-- Whether a variant has a payload with different fields, which are numbers and
    texts. -/
def isScalar (w : Variant) : Bool :=
  w.isBasic && w.fields.all (fun f => f.shape.isScalar) &&
    match w.layout with
    | .struct _ => true
    | .newtype _ _ => false

end Variant

/-! ## Faults -/

/-- No payload of a variant is at fault for a capability. -/
theorem Variant.member_ne_unsupported (w : Variant) (payload : Json) (c : Text) :
    w.member.2 payload ≠ .error (.unsupported c) := by
  intro h
  have hvalues : w.decodeValues payload = .error (.unsupported c) := Except.map_eq_error.mp h
  cases hlayout : w.layout with
  | struct fields =>
    simp only [decodeValues, hlayout, structPayload] at hvalues
    split at hvalues
    · obtain ⟨issues, -, hissues⟩ := Except.mapError_eq_error.mp hvalues
      cases hissues
    · cases hvalues
  | newtype g others =>
    simp only [decodeValues, hlayout] at hvalues
    obtain ⟨issues, -, hissues⟩ := Except.mapError_eq_error.mp hvalues
    cases hissues

namespace TaggedUnion

variable {u : TaggedUnion Message}

/-- With different tags in the table, each tag has its own decoder. -/
theorem find?_eq_some_iff (hnodup : (u.decoders.map Prod.fst).Nodup) {tag : Text}
    {d : Decoder Message} : u.find? tag = some d ↔ (tag, d) ∈ u.decoders := by
  constructor
  · exact mem_of_find?
  · intro hmem
    have hbuilt : (ofMembers u.name u.base u.decoders).Carries u.decoders :=
      carries_build (build_ofMembers hnodup)
    exact hbuilt.found _ hmem

/-- The fault of a capability comes from the decoder of a tag, or from a tag that is
    not in the table. -/
theorem decode_eq_unsupported_iff (hnodup : (u.decoders.map Prod.fst).Nodup) {v : Json}
    {name : Text} :
    u.decode v = .error (.unsupported name) ↔ ∃ tag payload, v = .object [(tag, payload)]
      ∧ ((∃ d, (tag, d) ∈ u.decoders ∧ d payload = .error (.unsupported name))
        ∨ ((∀ d, (tag, d) ∉ u.decoders) ∧ u.unknown tag = .unsupported name)) := by
  simp only [← find?_eq_some_iff hnodup, ← ne_eq, ← Option.eq_none_iff_forall_ne_some]
  constructor
  · intro h
    unfold decode at h
    split at h
    · next tag payload =>
      refine ⟨tag, payload, rfl, ?_⟩
      split at h
      · next d hd => exact .inl ⟨d, hd, h⟩
      · next hnone => exact .inr ⟨hnone, Except.error.inj h⟩
    · cases h
  · rintro ⟨tag, payload, rfl, ⟨d, hd, h⟩ | ⟨hnone, h⟩⟩
    · rw [decode_singleton hd]
      exact h
    · simp only [decode, hnone, h]

end TaggedUnion

/-! ## Unions of variants -/

namespace Registry

variable {r : Registry} {f : Family} {wanted : List Text} {u : TaggedUnion Message}

/-- A table with an entry for each wanted capability, in which any other name is
    the fault of a capability. -/
structure Offers (r : Registry) (f : Family) (wanted : List Text) (u : TaggedUnion Message) :
    Prop where
  nodup : (u.decoders.map Prod.fst).Nodup
  mem_iff : ∀ p, p ∈ u.decoders ↔ ∃ c ∈ r, c.name ∈ wanted ∧ payloadMember f c = p
  unknown : u.unknown = DecodeFault.unsupported

/-- Known names can all be wanted. -/
theorem offers_payloadUnion (hnames : r.names.Nodup)
    (hknown : ∀ name ∈ wanted, name ∈ r.names) :
    ∃ u, r.payloadUnion f wanted = .ok u ∧ r.Offers f wanted u := by
  have hnone : wanted.find? (fun name => !r.names.contains name) = none := by
    rw [List.find?_eq_none]
    intro name hname
    simpa using hknown name hname
  unfold payloadUnion enabled
  rw [hnone]
  refine ⟨_, rfl, ?_, ?_, rfl⟩
  · rw [List.map_map]
    exact hnames.sublist (List.filter_sublist.map Capability.name)
  · intro p
    rw [List.mem_map]
    -- Of the capabilities in the registry, those with enabled names are the wanted ones.
    apply exists_congr
    intro c
    rw [List.mem_filter, and_assoc]
    apply and_congr_right
    intro hc
    have hname : c.name ∈ r.names := List.mem_map_of_mem hc
    simp [hname]

/-- Whatever is wanted with success is known. -/
theorem offers_of_payloadUnion (hnames : r.names.Nodup) (hu : r.payloadUnion f wanted = .ok u) :
    r.Offers f wanted u := by
  have hknown : ∀ name ∈ wanted, name ∈ r.names := by
    intro name hname
    unfold payloadUnion enabled at hu
    split at hu
    · cases hu
    · next hnone =>
      rw [List.find?_eq_none] at hnone
      simpa using hnone name hname
  obtain ⟨w, hw, hoffers⟩ := offers_payloadUnion (f := f) hnames hknown
  rw [hu] at hw
  obtain rfl := Except.ok.inj hw
  exact hoffers

/-- The faults for capabilities are for those that are not wanted. -/
theorem Offers.decode_eq_unsupported_iff (hu : r.Offers f wanted u)
    (hknown : ∀ name ∈ wanted, name ∈ r.names)
    (hclosed : ∀ c ∈ r, ∀ v name, (c.union f).decode v ≠ .error (.unsupported name)) {v : Json}
    {name : Text} : u.decode v = .error (.unsupported name) ↔
      name ∉ wanted ∧ ∃ payload, v = .object [(name, payload)] := by
  rw [TaggedUnion.decode_eq_unsupported_iff hu.nodup, hu.unknown]
  constructor
  · rintro ⟨tag, payload, rfl, ⟨d, hd, hfault⟩ | ⟨hnone, hname⟩⟩
    · obtain ⟨c, hc, -, hmember⟩ := (hu.mem_iff _).mp hd
      obtain ⟨-, rfl⟩ := Prod.mk.inj hmember
      exact absurd (Except.map_eq_error.mp hfault) (hclosed c hc payload name)
    · cases hname
      refine ⟨?_, payload, rfl⟩
      intro hwanted
      obtain ⟨c, hc, rfl⟩ := List.mem_map.mp (hknown _ hwanted)
      exact hnone _ ((hu.mem_iff _).mpr ⟨c, hc, hwanted, rfl⟩)
  · rintro ⟨hunwanted, payload, rfl⟩
    refine ⟨name, payload, rfl, .inr ⟨?_, rfl⟩⟩
    intro d hd
    obtain ⟨c, -, hwanted, hmember⟩ := (hu.mem_iff _).mp hd
    rw [← (Prod.mk.inj hmember).1] at hunwanted
    exact hunwanted hwanted

end Registry

/-! ## Families -/

namespace Family

/-- The variants that a family has for the capabilities that are always there. -/
def extensions : Family → List (Capability × List Variant)
  | .execute =>
    [(.lockup, [Capability.Lockup.unlock, Capability.Lockup.withdrawUnlocked,
        Capability.Lockup.emergencyUnlock]),
      (.keeper, [Capability.Keeper.addKeeper, Capability.Keeper.removeKeeper,
        Capability.Keeper.harvest])]
  | .query =>
    [(.lockup, [Capability.Lockup.lockups, Capability.Lockup.lockup,
        Capability.Lockup.lockupDuration]),
      (.keeper, [Capability.Keeper.keepers, Capability.Keeper.isKeeper])]

/-- The value is for a capability that is not wanted, whatever the payload is. -/
def IsUnwanted (wanted : List Text) (name : Text) (v : Json) : Prop :=
  name ∉ wanted ∧ ∃ payload, v = .object [(Message.extensionTag, .object [(name, payload)])]

theorem exists_mem_extensions (f : Family) {c : Capability} (hc : c ∈ Registry.standard) :
    ∃ ws, (c, ws) ∈ f.extensions := by
  simp only [Registry.standard, List.mem_cons, List.not_mem_nil, or_false] at hc
  rcases hc with rfl | rfl
  · cases f with
    | execute => exact ⟨_, List.mem_cons_self ..⟩
    | query => exact ⟨_, List.mem_cons_self ..⟩
  · cases f with
    | execute => exact ⟨_, List.mem_cons_of_mem _ (List.mem_cons_self ..)⟩
    | query => exact ⟨_, List.mem_cons_of_mem _ (List.mem_cons_self ..)⟩

section Union

variable {f : Family} {payload : Decoder Message}

theorem nodup_keys_union : ((f.union payload).decoders.map Prod.fst).Nodup := by
  show ((f.variants.map Variant.member
    ++ [(Message.extensionTag, fun p => Message.extension f <$> payload p)]).map Prod.fst).Nodup
  rw [List.map_append, List.map_map]
  exact f.nodup_tags

theorem mem_decoders_union {p : Text × Decoder Message} :
    p ∈ (f.union payload).decoders ↔ (∃ w ∈ f.variants, w.member = p)
      ∨ p = (Message.extensionTag, fun q => Message.extension f <$> payload q) := by
  show p ∈ f.variants.map Variant.member ++ [_] ↔ _
  rw [List.mem_append, List.mem_map, List.mem_singleton]

/-- A family decodes the normal form of its variants, whatever the payloads for
    capabilities are. -/
theorem decode_union_toWire {w : Variant} (hw : w ∈ f.variants) {values : List Value} {p : Json}
    (h : w.Written values p) :
    (f.union payload).decode (Message.variant w values).toWire = .ok (.variant w values) := by
  have hrestores := f.restores_variant payload hw h
  exact hrestores.decoded _ hrestores.written

/-- All faults for capabilities are those of the payload. -/
theorem decode_union_eq_unsupported_iff {v : Json} {name : Text} :
    (f.union payload).decode v = .error (.unsupported name) ↔
      ∃ p, v = .object [(Message.extensionTag, p)] ∧ payload p = .error (.unsupported name) := by
  rw [TaggedUnion.decode_eq_unsupported_iff nodup_keys_union]
  constructor
  · rintro ⟨tag, q, rfl, ⟨d, hd, hfault⟩ | ⟨-, hunknown⟩⟩
    · rcases mem_decoders_union.mp hd with ⟨w, -, hw⟩ | hextension
      · obtain ⟨-, rfl⟩ := Prod.mk.inj hw
        exact absurd hfault (w.member_ne_unsupported q name)
      · obtain ⟨rfl, rfl⟩ := Prod.mk.inj hextension
        exact ⟨q, rfl, Except.map_eq_error.mp hfault⟩
    · cases hunknown
  · rintro ⟨q, rfl, hfault⟩
    refine ⟨_, q, rfl, .inl ⟨fun p => Message.extension f <$> payload p, ?_,
      Except.map_eq_error.mpr hfault⟩⟩
    exact mem_decoders_union.mpr (.inr rfl)

end Union

section Offers

variable {f : Family} {wanted : List Text} {u : TaggedUnion Message}
  (hu : Registry.standard.Offers f wanted u)

include hu

end Offers

/-- The keeper capability alone. -/
def keeperOnly : List Text := ["keeper"]

/-- A command for the keeper capability. -/
def addKeeperCommand : Json :=
  .object [("vault_extension", .object [("keeper",
    .object [("add_keeper", .object [("address", .text "osmo1bob")])])])]

/-- Something for the lockup capability. -/
def lockupCommand : Json := .object [("vault_extension", .object [("lockup", .int 5)])]

end Family

end ShareVault
