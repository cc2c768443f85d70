import ShareVault.Proofs.Capability.Composition
import ShareVault.Proofs.Wire.Binding

/-! # Payloads for capabilities

    A value for a capability has its payload under two keys, the tag of extensions and
    the name of the capability. If the capability is wanted, its own union decodes the
    payload, and the message goes on with the name around it. If it is not, the value
    has the fault that the capability is not supported.

    There is one more way to that fault. The union of a capability may be a table of
    capabilities itself, and then a payload for a wanted capability can be one for
    another that is not. Unions of variants are no such tables.

    Main statements:
    - `TaggedUnion.isClosed_of_build`: unions of variants never have that fault;
    - `Registry.decode_union_eq_unsupported_iff`: which values have it for a family;
    - `Registry.message_of_decode`: what the messages of a family are.
-/

namespace ShareVault

/-! ## Unions of variants -/

namespace TaggedUnion

variable {u : TaggedUnion Message}

/-- No value is a payload for a capability to the union. -/
def IsClosed (u : TaggedUnion Message) : Prop :=
  ∀ v c, u.decode v ≠ .error (.unsupported c)

/-- A union that is built of variants has malformed values, but no payloads for
    capabilities. -/
theorem isClosed_of_build {name : Text} {base : Base} {vs : List Variant}
    {aliases : List (Text × Text)}
    (h : build name base (vs.map Variant.member) aliases = .ok u) : u.IsClosed := by
  have hcarries := carries_build h
  obtain ⟨-, -, -, hunknown⟩ := build_frame h
  intro v c hfault
  unfold decode at hfault
  split at hfault
  · next tag payload =>
    split at hfault
    -- The decoder is that of a variant, also under an alias.
    · next d hd =>
      have hknown := hcarries.known tag d hd
      rw [List.map_map, List.mem_map] at hknown
      obtain ⟨x, -, rfl⟩ := hknown
      exact x.member_ne_unsupported payload c hfault
    · rw [hunknown] at hfault
      cases hfault
  · cases hfault

end TaggedUnion

/-- Both unions of the capability are built of variants. -/
def Capability.IsOfVariants (k : Capability) : Prop :=
  ∀ f : Family, ∃ (name : Text) (base : Base) (vs : List Variant) (aliases : List (Text × Text)),
    TaggedUnion.build name base (vs.map Variant.member) aliases = .ok (k.union f)

theorem Capability.isOfVariants_keeper : keeper.IsOfVariants := by
  intro f
  cases f with
  | execute => exact ⟨_, _, _, [], TaggedUnion.build_ofMembers (by decide +kernel)⟩
  | query => exact ⟨_, _, _, [], TaggedUnion.build_ofMembers (by decide +kernel)⟩

/-! ## Values with a payload for a capability -/

namespace Registry

variable {r : Registry} {f : Family} {wanted : List Text} {codec : TaggedUnion Message}

/-- The value has a payload for a wanted capability, under its name. -/
structure Addresses (r : Registry) (wanted : List Text) (data : Json) (k : Capability)
    (payload : Json) : Prop where
  wanted : k.name ∈ wanted
  found : r.find? k.name = some k
  data : data = .object [(Message.extensionTag, .object [(k.name, payload)])]

/-- The value has a payload for a wanted capability that the union of the capability
    takes for one for `c`. -/
def Forwards (r : Registry) (f : Family) (wanted : List Text) (data : Json) (c : Text) : Prop :=
  ∃ k payload, r.Addresses wanted data k payload
    ∧ (k.union f).decode payload = .error (.unsupported c)

/-- Unions of variants forward nothing. -/
theorem not_forwards_of_isOfVariants (f : Family)
    (hvariants : ∀ k ∈ r, k.name ∈ wanted → k.IsOfVariants) (data : Json) (c : Text) :
    ¬ r.Forwards f wanted data c := by
  intro h
  obtain ⟨k, payload, haddresses, hfault⟩ := h
  have hk : k ∈ r := List.mem_of_find?_eq_some haddresses.found
  obtain ⟨_, _, _, _, hbuild⟩ := hvariants k hk haddresses.wanted f
  exact TaggedUnion.isClosed_of_build hbuild payload c hfault

/-- A payload for a wanted capability is decoded by the union of the capability. -/
theorem decode_of_addresses (h : r.union f wanted = .ok codec) {data : Json} {k : Capability}
    {payload : Json} (haddresses : r.Addresses wanted data k payload) :
    codec.decode data
      = (fun inner => .extension f (.capability k.name inner)) <$> (k.union f).decode payload := by
  obtain ⟨u, hu, rfl⟩ := union_eq_ok h
  have hfind := find?_payloadUnion hu k.name
  rw [if_pos haddresses.wanted, haddresses.found, Option.map_some] at hfind
  rw [haddresses.data, Family.decode_union_extension, TaggedUnion.decode_singleton hfind]
  show Message.extension f <$> Message.capability k.name <$> _ = _
  cases (k.union f).decode payload with
  | error fault => rfl
  | ok inner => rfl

/-- Under the tag of extensions there is a payload for a wanted capability, or for one
    that is not wanted, or there is no payload at all. -/
theorem payload_cases (h : r.payloadUnion f wanted = .ok codec) (p : Json) :
    (∃ k payload, k.name ∈ wanted ∧ r.find? k.name = some k ∧ p = .object [(k.name, payload)])
      ∨ (∃ name payload, name ∉ wanted ∧ p = .object [(name, payload)])
      ∨ ∃ why, codec.decode p = .error (.malformed why) := by
  by_cases hsingle : ∃ name payload, p = .object [(name, payload)]
  · obtain ⟨name, payload, hp⟩ := hsingle
    by_cases hwanted : name ∈ wanted
    · obtain ⟨names, hnames, -⟩ := Except.map_eq_ok.mp h
      obtain ⟨k, hk⟩ := exists_find?_of_mem ((enabled_eq_ok.mp hnames).1 name hwanted)
      have hname := name_of_find? hk
      subst hname
      exact .inl ⟨k, payload, hwanted, hk, hp⟩
    · exact .inr (.inl ⟨name, payload, hwanted, hp⟩)
  · refine .inr (.inr ⟨.notSingleKey codec.name p, ?_⟩)
    unfold TaggedUnion.decode
    split
    · next name payload => exact absurd ⟨name, payload, rfl⟩ hsingle
    · rfl

/-- The fault is that of a capability for payloads for those that are not wanted, and
    for those that a wanted one takes for another. -/
theorem decode_union_eq_unsupported_iff (h : r.union f wanted = .ok codec) {data : Json}
    {c : Text} : codec.decode data = .error (.unsupported c) ↔
      Family.IsUnwanted wanted c data ∨ r.Forwards f wanted data c := by
  constructor
  · intro hfault
    obtain ⟨u, hu, rfl⟩ := union_eq_ok h
    obtain ⟨p, hdata, hp⟩ := Family.decode_union_eq_unsupported_iff.mp hfault
    rcases payload_cases hu p with ⟨k, payload, hwanted, hfound, heq⟩ | hrest
    · have haddresses : r.Addresses wanted data k payload := ⟨hwanted, hfound, by rw [hdata, heq]⟩
      rw [decode_of_addresses h haddresses] at hfault
      exact .inr ⟨k, payload, haddresses, Except.map_eq_error.mp hfault⟩
    · rcases hrest with ⟨name, payload, hnot, heq⟩ | ⟨why, hwhy⟩
      · rw [heq, decode_payloadUnion_of_not_mem hu hnot] at hp
        cases hp
        exact .inl ⟨hnot, payload, by rw [hdata, heq]⟩
      · rw [hwhy] at hp
        cases hp
  · intro hcases
    rcases hcases with ⟨hnot, payload, rfl⟩ | ⟨k, payload, haddresses, hfault⟩
    · obtain ⟨u, hu, rfl⟩ := union_eq_ok h
      rw [Family.decode_union_extension, decode_payloadUnion_of_not_mem hu hnot]
      rfl
    · rw [decode_of_addresses h haddresses, hfault]
      rfl

/-- A message is a variant of the family, or one that the union of a wanted capability
    decoded, with the name of the capability around it. -/
theorem message_of_decode (h : r.union f wanted = .ok codec) {data : Json} {m : Message}
    (hm : codec.decode data = .ok m) :
    (∃ w values, m = .variant w values)
      ∨ ∃ k payload inner, r.Addresses wanted data k payload
        ∧ (k.union f).decode payload = .ok inner ∧ m = .extension f (.capability k.name inner) := by
  obtain ⟨u, hu, rfl⟩ := union_eq_ok h
  obtain ⟨tag, p, d, hdata, hd, hp⟩ := TaggedUnion.decode_eq_ok.mp hm
  rcases Family.mem_decoders_union.mp (TaggedUnion.mem_of_find? hd) with ⟨w, -, hw⟩ | hextension
  · obtain ⟨-, rfl⟩ := Prod.mk.inj hw
    obtain ⟨values, -, hvalues⟩ := Except.map_eq_ok.mp hp
    exact .inl ⟨w, values, hvalues.symm⟩
  · obtain ⟨rfl, rfl⟩ := Prod.mk.inj hextension
    obtain ⟨inner, hinner, -⟩ := Except.map_eq_ok.mp hp
    rcases payload_cases hu p with ⟨k, payload, hwanted, hfound, heq⟩ | hrest
    · have haddresses : r.Addresses wanted data k payload := ⟨hwanted, hfound, by rw [hdata, heq]⟩
      rw [decode_of_addresses h haddresses] at hm
      obtain ⟨own, hown, hmessage⟩ := Except.map_eq_ok.mp hm
      exact .inr ⟨k, payload, own, haddresses, hown, hmessage.symm⟩
    -- No other payload is decoded.
    · rcases hrest with ⟨name, payload, hnot, heq⟩ | ⟨why, hwhy⟩
      · rw [heq, decode_payloadUnion_of_not_mem hu hnot] at hinner
        cases hinner
      · rw [hwhy] at hinner
        cases hinner

end Registry

end ShareVault
