import ShareVault.Proofs.Capability.Growth
import ShareVault.Proofs.Message.Grammar

/-! # Capabilities next to each other

    A family can be built over any of the known capabilities. What is decoded under
    the name of one of them does not depend on which others are enabled: enabling more
    changes the outcome for values that name one of those more, and for no others.
    There the smaller family has the fault that the capability is not supported.

    Main statements:
    - `find?_payloadUnion`: what a table of payloads has under a name;
    - `Family.decode_union_congr`: what a family makes of a value depends on the
      payloads alone;
    - `capabilities_compose`: a family over few capabilities, against one over many.
-/

namespace ShareVault

/-! ## Tables that agree -/

/-- Tables that agree on one tag have the same outcome for the objects with that tag,
    and tables with the same name have it for everything that is no such object. -/
theorem TaggedUnion.decode_congr {α : Type} {u w : TaggedUnion α} {v : Json}
    (hname : u.name = w.name) (hunknown : u.unknown = w.unknown)
    (hfind : ∀ tag payload, v = .object [(tag, payload)] → u.find? tag = w.find? tag) :
    u.decode v = w.decode v := by
  unfold decode
  split
  · next tag payload =>
    rw [hfind tag payload rfl, hunknown]
  · rw [hname]

namespace Family

variable {f : Family} {payload other : Decoder Message}

/-- Under the tag of extensions a family decodes the payload. -/
theorem decode_union_extension (f : Family) (payload : Decoder Message) (p : Json) :
    (f.union payload).decode (.object [(Message.extensionTag, p)])
      = Message.extension f <$> payload p := by
  have hmem : (Message.extensionTag, fun q => Message.extension f <$> payload q)
      ∈ (f.union payload).decoders := mem_decoders_union.mpr (.inr rfl)
  exact TaggedUnion.decode_singleton ((TaggedUnion.find?_eq_some_iff nodup_keys_union).mpr hmem) p

/-- Under any other tag the decoder of payloads does not matter. -/
theorem find?_union_of_ne {tag : Text} (h : tag ≠ Message.extensionTag) :
    (f.union payload).find? tag = (f.variants.map Variant.member).lookup tag := by
  show (f.variants.map Variant.member ++ [_]).lookup tag = _
  have hlast : (tag == Message.extensionTag) = false := beq_eq_false_iff_ne.mpr h
  rw [List.lookup_append, List.lookup_cons, hlast]
  exact Option.or_none

/-- What a family makes of a value depends only on what is made of the payload in it,
    if there is one. -/
theorem decode_union_congr {v : Json}
    (h : ∀ p, v = .object [(Message.extensionTag, p)] → payload p = other p) :
    (f.union payload).decode v = (f.union other).decode v := by
  by_cases hv : ∃ p, v = .object [(Message.extensionTag, p)]
  · obtain ⟨p, hp⟩ := hv
    rw [hp, decode_union_extension, decode_union_extension, h p hp]
  · refine TaggedUnion.decode_congr rfl rfl ?_
    intro tag q hq
    have hne : tag ≠ Message.extensionTag := by
      intro htag
      subst htag
      exact hv ⟨q, hq⟩
    rw [find?_union_of_ne hne, find?_union_of_ne hne]

end Family

/-! ## Payloads for capabilities -/

namespace Registry

variable {r : Registry} {f : Family} {wanted : List Text} {u : TaggedUnion Message}

/-- In a table of kept capabilities the first of a name is found, if it is kept. -/
theorem lookup_payloadMembers (f : Family) (r : Registry) (kept : Text → Bool) (name : Text) :
    ((r.filter fun c => kept c.name).map (payloadMember f)).lookup name
      = if kept name then (r.find? name).map fun c => (payloadMember f c).2 else none := by
  induction r with
  | nil => simp [find?]
  | cons c r ih =>
    by_cases hc : c.name = name
    · subst hc
      by_cases hkept : kept c.name = true
      · simp [find?, hkept, payloadMember]
      · have hdrop : (c :: r).filter (fun c => kept c.name) = r.filter fun c => kept c.name :=
          List.filter_cons_of_neg hkept
        rw [hdrop, ih, if_neg hkept, if_neg hkept]
    -- A capability of another name is passed over in the table, if it is there at all.
    · have hfind : Registry.find? (c :: r) name = Registry.find? r name :=
        List.find?_cons_of_neg (by simpa using hc)
      have hskip : (name == c.name) = false := beq_eq_false_iff_ne.mpr (Ne.symm hc)
      rw [hfind, ← ih, List.filter_cons]
      split
      · rw [List.map_cons, List.lookup_cons]
        simp only [payloadMember, hskip]
      · rfl

/-- What a table of payloads has under a name is the union of the capability of that
    name, if it is wanted. -/
theorem find?_payloadUnion (hu : r.payloadUnion f wanted = .ok u) (name : Text)
    [Decidable (name ∈ wanted)] :
    u.find? name
      = if name ∈ wanted then (r.find? name).map fun c => (payloadMember f c).2 else none := by
  obtain ⟨names, hnames, rfl⟩ := Except.map_eq_ok.mp hu
  have hmem : names.contains name = true ↔ name ∈ wanted := by
    rw [List.contains_iff_mem, mem_of_enabled hnames]
  show ((r.filter fun c => names.contains c.name).map (payloadMember f)).lookup name = _
  rw [lookup_payloadMembers f r fun name => names.contains name]
  simp only [hmem]

/-- All tables of payloads of a family have its name for them and the same fault. -/
theorem payloadUnion_frame (hu : r.payloadUnion f wanted = .ok u) :
    u.name = payloadName f ∧ u.unknown = DecodeFault.unsupported := by
  obtain ⟨names, -, rfl⟩ := Except.map_eq_ok.mp hu
  exact ⟨rfl, rfl⟩

/-- Known names can be wanted, and a family is built over their payloads. -/
theorem exists_union (f : Family) (hknown : ∀ name ∈ wanted, name ∈ r.names) :
    ∃ u, r.payloadUnion f wanted = .ok u ∧ r.union f wanted = .ok (f.union u.decode) := by
  have hnames := enabled_eq_ok.mpr ⟨hknown, rfl⟩
  obtain ⟨u, hu⟩ : ∃ u, r.payloadUnion f wanted = .ok u :=
    ⟨_, Except.map_eq_ok.mpr ⟨_, hnames, rfl⟩⟩
  exact ⟨u, hu, Except.map_eq_ok.mpr ⟨u, hu, rfl⟩⟩

/-- A name that is not wanted has the fault of a capability, whatever is under it. -/
theorem decode_payloadUnion_of_not_mem (hu : r.payloadUnion f wanted = .ok u) {name : Text}
    (h : name ∉ wanted) (p : Json) :
    u.decode (.object [(name, p)]) = .error (.unsupported name) := by
  have hnone := find?_payloadUnion hu name
  rw [if_neg h] at hnone
  simp only [TaggedUnion.decode, hnone, (payloadUnion_frame hu).2]

end Registry

/-! ## Families over capabilities -/

/-- Of two families over known capabilities, one over some and the other over some
    more, both decode a value to the same message or have the same fault. Only for a
    capability that is among those more the smaller family has the fault that it is
    not supported. And the smaller family is the same once a further capability is
    registered, or any number of them. -/
theorem capabilities_compose (r : Registry) (f : Family) {few many : List Text}
    (hsub : ∀ name ∈ few, name ∈ many) (hknown : ∀ name ∈ many, name ∈ r.names) :
    ∃ small large, r.union f few = .ok small ∧ r.union f many = .ok large
      ∧ (∀ v, (∀ name ∈ many, ¬ Family.IsUnwanted few name v) → small.decode v = large.decode v)
      ∧ (∀ name ∈ many, ∀ v, Family.IsUnwanted few name v →
        small.decode v = .error (.unsupported name))
      ∧ (∀ c, c.name ∉ r.names → ∃ later, r.register c = .ok later
        ∧ later.union f few = .ok small)
      ∧ ∀ calls, (r.enrollAll calls).union f few = .ok small := by
  have hfew : ∀ name ∈ few, name ∈ r.names := fun name hname => hknown name (hsub name hname)
  obtain ⟨u, hu, hsmall⟩ := Registry.exists_union f hfew
  obtain ⟨w, hw, hlarge⟩ := Registry.exists_union f hknown
  refine ⟨_, _, hsmall, hlarge, ?_, ?_, ?_, ?_⟩
  · intro v hv
    apply Family.decode_union_congr
    intro p hp
    obtain ⟨huname, huunknown⟩ := Registry.payloadUnion_frame hu
    obtain ⟨hwname, hwunknown⟩ := Registry.payloadUnion_frame hw
    refine TaggedUnion.decode_congr (huname.trans hwname.symm) (huunknown.trans hwunknown.symm) ?_
    intro name q hq
    rw [Registry.find?_payloadUnion hu, Registry.find?_payloadUnion hw]
    by_cases hmany : name ∈ many
    -- A wanted name of the larger family is one of the smaller, or it is excluded.
    · have hname : name ∈ few := by
        by_contra hnot
        exact hv name hmany ⟨hnot, q, by rw [hp, hq]⟩
      rw [if_pos hname, if_pos hmany]
    · have hname : name ∉ few := fun hfew => hmany (hsub name hfew)
      rw [if_neg hname, if_neg hmany]
  · intro name hname v hv
    obtain ⟨hnot, p, rfl⟩ := hv
    rw [Family.decode_union_extension, Registry.decode_payloadUnion_of_not_mem hu hnot]
    rfl
  · intro c hc
    have hregister := Registry.register_eq_ok.mpr ⟨hc, rfl⟩
    refine ⟨_, hregister, ?_⟩
    rw [(Registry.growsTo_of_register hregister).union_eq f hfew]
    exact hsmall
  · intro calls
    rw [(r.growsTo_enrollAll calls).union_eq f hfew]
    exact hsmall

/-- A capability with the messages of keepers under another name. -/
def pauseCapability : Capability := { Capability.keeper with name := "pause" }

/-- Keepers alone, against keepers and lockups. -/
theorem capabilities_compose_keeperOnly :
    (∀ name ∈ Family.keeperOnly, name ∈ Registry.defaultNames)
      ∧ (∀ name ∈ Registry.defaultNames, name ∈ Registry.standard.names)
      ∧ ∃ small large, Registry.standard.union .execute Family.keeperOnly = .ok small
        ∧ Registry.standard.union .execute Registry.defaultNames = .ok large
        ∧ small.decode Family.lockupCommand = .error (.unsupported "lockup")
        ∧ small.decode Family.addKeeperCommand = large.decode Family.addKeeperCommand
        ∧ ∃ later, Registry.standard.register pauseCapability = .ok later
          ∧ later.union .execute Family.keeperOnly = .ok small := by
  have hsub : ∀ name ∈ Family.keeperOnly, name ∈ Registry.defaultNames := by decide
  have hknown : ∀ name ∈ Registry.defaultNames, name ∈ Registry.standard.names := by decide
  obtain ⟨small, large, hsmall, hlarge, hsame, hfault, hlater, -⟩ :=
    capabilities_compose Registry.standard .execute hsub hknown
  refine ⟨hsub, hknown, small, large, hsmall, hlarge, ?_, ?_, hlater pauseCapability (by decide)⟩
  · exact hfault "lockup" (by decide) _ ⟨by decide, _, rfl⟩
  · apply hsame
    intro name _ hname
    obtain ⟨hnot, p, heq⟩ := hname
    -- The command is for keepers, and those are wanted.
    cases heq
    exact hnot (by decide)

end ShareVault
