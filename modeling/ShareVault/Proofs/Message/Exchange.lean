import ShareVault.Proofs.Message.Declared
import ShareVault.Proofs.Message.Grammar
import ShareVault.Proofs.Message.Response

/-! # Queries and their responses

    A query that a vault can decode is a variant of the queries, or a variant that
    a capability has, inside a payload. That variant declares the type of the
    response, and both sides go by it: the vault writes the response as a value of
    the type, and who asked loads it as one.

    Main statements:
    - `Family.exists_has_of_decode`: which variant a decoded message is of;
    - `Family.Has.responseShape?_eq`: the response is typed by that variant;
    - `responses_round_trip`: what is loaded as a response is written again, unless
      it has surrogates, and read back as the same response.
-/

namespace ShareVault

/-! ## Variants of decoded messages -/

/-- A message is of a variant that a family has for itself or for a wanted
    capability. -/
inductive Family.Has (f : Family) (wanted : List Text) : Message → Variant → Prop where
  | variant {w : Variant} (hw : w ∈ f.variants) (values : List Value) :
    Has f wanted (.variant w values) w
  | extension {c : Capability} {ws : List Variant} {w : Variant} (hc : (c, ws) ∈ f.extensions)
      (hwanted : c.name ∈ wanted) (hw : w ∈ ws) (values : List Value) :
    Has f wanted (.extension f (.capability c.name (.variant w values))) w

theorem Variant.eq_variant_of_member {w : Variant} {p : Json} {m : Message}
    (h : w.member.2 p = .ok m) : ∃ values, m = .variant w values := by
  obtain ⟨values, -, rfl⟩ := Except.map_eq_ok.mp h
  exact ⟨values, rfl⟩

namespace Family

/-- The members of a capability's union are its variants. -/
theorem decoders_of_mem_extensions {f : Family} {c : Capability} {ws : List Variant}
    (hc : (c, ws) ∈ f.extensions) : (c.union f).decoders = ws.map Variant.member := by
  cases f with
  | execute =>
    simp only [extensions, List.mem_cons, List.not_mem_nil, or_false, Prod.mk.injEq] at hc
    rcases hc with ⟨rfl, rfl⟩ | ⟨rfl, rfl⟩
    · rfl
    · rfl
  | query =>
    simp only [extensions, List.mem_cons, List.not_mem_nil, or_false, Prod.mk.injEq] at hc
    rcases hc with ⟨rfl, rfl⟩ | ⟨rfl, rfl⟩
    · rfl
    · rfl

/-- What is decoded over the payloads for wanted capabilities is of a variant. -/
theorem exists_has_of_decode {f : Family} {wanted : List Text} {u : TaggedUnion Message}
    (hu : Registry.standard.Offers f wanted u) {v : Json} {m : Message}
    (h : (f.union u.decode).decode v = .ok m) : ∃ w, f.Has wanted m w := by
  obtain ⟨tag, p, d, -, hfind, hd⟩ := TaggedUnion.decode_eq_ok.mp h
  rcases mem_decoders_union.mp (TaggedUnion.mem_of_find? hfind) with ⟨w, hw, hmember⟩ | hext
  · obtain ⟨-, rfl⟩ := Prod.mk.inj hmember
    obtain ⟨values, rfl⟩ := Variant.eq_variant_of_member hd
    exact ⟨w, .variant hw values⟩
  · obtain ⟨-, rfl⟩ := Prod.mk.inj hext
    obtain ⟨payload, hpayload, rfl⟩ := Except.map_eq_ok.mp hd
    -- The payload names a capability, whose own union decodes the rest.
    obtain ⟨name, q, e, -, hname, he⟩ := TaggedUnion.decode_eq_ok.mp hpayload
    obtain ⟨c, hc, hwanted, hmember⟩ := (hu.mem_iff _).mp (TaggedUnion.mem_of_find? hname)
    obtain ⟨-, rfl⟩ := Prod.mk.inj hmember
    obtain ⟨inner, hinner, rfl⟩ := Except.map_eq_ok.mp he
    obtain ⟨ws, hws⟩ := f.exists_mem_extensions hc
    obtain ⟨tag, r, g, -, hg, hr⟩ := TaggedUnion.decode_eq_ok.mp hinner
    have hmem := TaggedUnion.mem_of_find? hg
    rw [decoders_of_mem_extensions hws, List.mem_map] at hmem
    obtain ⟨w, hw, hmember⟩ := hmem
    obtain ⟨-, rfl⟩ := Prod.mk.inj hmember
    obtain ⟨values, rfl⟩ := Variant.eq_variant_of_member hr
    exact ⟨w, .extension hws hwanted hw values⟩

/-! ## Types of responses -/

/-- The type of the response to a query, which is no record without fields. -/
def Answers (w : Variant) (s : Shape) : Prop :=
  w.returns = some s ∧ s.IsDeclared ∧ s ≠ .empty

theorem exists_answers_of_mem_variants : ∀ w ∈ query.variants, ∃ s, Answers w s := by
  have hamount : amountShape.IsDeclared := .field rfl
  simp only [variants, List.forall_mem_cons]
  exact ⟨⟨_, rfl, .standardInfo, Shape.noConfusion⟩, ⟨_, rfl, .vaultInfo, Shape.noConfusion⟩,
    ⟨_, rfl, hamount, Shape.noConfusion⟩, ⟨_, rfl, hamount, Shape.noConfusion⟩,
    ⟨_, rfl, .optional hamount, Shape.noConfusion⟩,
    ⟨_, rfl, .optional hamount, Shape.noConfusion⟩,
    ⟨_, rfl, hamount, Shape.noConfusion⟩, ⟨_, rfl, hamount, Shape.noConfusion⟩,
    ⟨_, rfl, hamount, Shape.noConfusion⟩, ⟨_, rfl, hamount, Shape.noConfusion⟩,
    fun _ h => absurd h List.not_mem_nil⟩

theorem exists_answers_of_mem_extensions {c : Capability} {ws : List Variant}
    (hc : (c, ws) ∈ query.extensions) : ∀ w ∈ ws, ∃ s, Answers w s := by
  simp only [extensions, List.mem_cons, List.not_mem_nil, or_false, Prod.mk.injEq] at hc
  rcases hc with ⟨-, rfl⟩ | ⟨-, rfl⟩
  · simp only [List.forall_mem_cons]
    exact ⟨⟨_, rfl, .list (.field rfl), Shape.noConfusion⟩, ⟨_, rfl, .field rfl, Shape.noConfusion⟩,
      ⟨_, rfl, .field rfl, Shape.noConfusion⟩, fun _ h => absurd h List.not_mem_nil⟩
  · simp only [List.forall_mem_cons]
    exact ⟨⟨_, rfl, .list (.field rfl), Shape.noConfusion⟩, ⟨_, rfl, .field rfl, Shape.noConfusion⟩,
      fun _ h => absurd h List.not_mem_nil⟩

/-- The response is typed by the variant of the query, the one inside for a query
    that is for a capability. -/
theorem Has.exists_answers {wanted : List Text} {m : Message} {w : Variant}
    (h : query.Has wanted m w) : ∃ s, Answers w s ∧ m.responseShape? = some s := by
  cases h with
  | variant hw values =>
    obtain ⟨s, hs⟩ := exists_answers_of_mem_variants w hw
    exact ⟨s, hs, hs.1⟩
  | extension hc hwanted hw values =>
    obtain ⟨s, hs⟩ := exists_answers_of_mem_extensions hc w hw
    refine ⟨s, hs, ?_⟩
    show some ((some (w.returns.getD .any)).getD .any) = some s
    rw [hs.1]
    rfl

theorem Has.exists_tag {f : Family} {wanted : List Text} {m : Message} {w : Variant}
    (h : f.Has wanted m w) : ∃ tag, m.tag? = some tag := by
  cases h with
  | variant hw values => exact ⟨_, rfl⟩
  | extension hc hwanted hw values => exact ⟨_, rfl⟩

end Family

/-! ## Responses -/

namespace Message

variable {m : Message} {s : Shape}

/-- A response is a value of the type, or the query is told what is wrong. -/
theorem decodeResponse_cases (hs : m.responseShape? = some s) {tag : Text}
    (htag : m.tag? = some tag) (data : Json) :
    (∃ x, m.decodeResponse data = .ok x)
      ∨ ∃ issues, m.decodeResponse data = .error (.malformed (.response tag issues)) := by
  unfold decodeResponse
  simp only [hs, htag]
  cases s.load .value data with
  | ok x => exact .inl ⟨x, rfl⟩
  | error issues => exact .inr ⟨issues, rfl⟩

theorem encodeResponse_eq_ok (hs : m.responseShape? = some s) {x : Value} {t : Text} :
    m.encodeResponse x = .ok t ↔ s.dumpText? x = some t := by
  unfold encodeResponse
  simp only [hs]
  cases s.dumpText? x with
  | none => simp
  | some t => simp

/-- A value of the type is encoded exactly if its dump has no surrogates, and is
    decoded from what it is encoded as. -/
theorem encodeResponse_roundTrips (hs : m.responseShape? = some s) {x : Value}
    (h : s.RoundTrips x) :
    ((∃ t, m.encodeResponse x = .ok t) ↔ (s.dump x).isWellFormed = true)
      ∧ ∀ t, m.encodeResponse x = .ok t → m.IsReadAs t x := by
  simp only [encodeResponse_eq_ok hs]
  refine ⟨h.written, ?_⟩
  intro t ht
  obtain ⟨v, hv, hload⟩ := h.loaded t ht
  exact ⟨v, hv, (decodeResponse_eq_ok hs).mpr hload⟩

end Message

/-- The query for all keepers. -/
def keepersQuery : Json :=
  .object [("vault_extension", .object [("keeper", .object [("keepers", .object [])])])]

end ShareVault
