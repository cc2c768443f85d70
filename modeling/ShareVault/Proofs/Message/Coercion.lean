import ShareVault.Proofs.Message.Restore

/-! # What a union takes for decoded

    A union that is given a value tells by its type whether it is decoded already. The
    type is the one that the members have in common: tokens, expirations and durations
    are told from everything else, and so are variants and the payloads for capabilities.
    A JSON value is of none of these types, so a union decodes it.

    The unions of the capabilities are told no such type. They take every value for
    decoded, and let JSON values pass as they are.

    Main statements:
    - `admits_of_decode`: what a union decodes is of the type of its members;
    - `coerce_decodes_iff`: which unions decode what they are given.
-/

namespace ShareVault

/-! ## Types of members -/

/-- A JSON value is of no type but the one of everything. -/
theorem Base.admits_raw (b : Base) (v : Json) : b.admits (.raw v) = decide (b = .anything) := by
  cases b with
  | anything => rfl
  | _ => rfl

/-! ## The unions and their types -/

namespace TaggedUnion

/-- The unions that there are, each with the type of its members. -/
inductive HasBase : TaggedUnion Message → Base → Prop where
  | token : HasBase (Token.union.map .token) .token
  | expiration : HasBase (Expiration.union.map .expiration) .expiration
  | duration : HasBase (Duration.union.map .duration) .duration
  /-- The payloads for some of the known capabilities. -/
  | payload {r : Registry} {f : Family} {wanted : List Text} {u : TaggedUnion Message}
      (hu : r.payloadUnion f wanted = .ok u) : HasBase u .capability
  /-- A family, whatever the payloads for capabilities are. -/
  | family (f : Family) (payload : Decoder Message) : HasBase (f.union payload) .variant
  /-- The commands and the queries of a capability that is always there. -/
  | capability {c : Capability} (hc : c ∈ Registry.standard) (f : Family) :
    HasBase (c.union f) .anything

variable {u : TaggedUnion Message} {b : Base}

/-- The type of its members is the one by which a union tells them. -/
theorem HasBase.base_eq (h : u.HasBase b) : u.base = b := by
  cases h with
  | token => rfl
  | expiration => rfl
  | duration => rfl
  | payload hu =>
    obtain ⟨names, -, rfl⟩ := Except.map_eq_ok.mp hu
    rfl
  | family f payload => rfl
  | capability hc f =>
    simp only [Registry.standard, List.mem_cons, List.not_mem_nil, or_false] at hc
    rcases hc with rfl | rfl
    · cases f with
      | execute => rfl
      | query => rfl
    · cases f with
      | execute => rfl
      | query => rfl

/-- What a union decodes is of the type of its members. -/
theorem HasBase.admits_of_decode (h : u.HasBase b) {v : Json} {m : Message}
    (hm : u.decode v = .ok m) : b.admits (.decoded m) = true := by
  cases h with
  | token =>
    obtain ⟨t, -, rfl⟩ := decode_map_eq_ok.mp hm
    rfl
  | expiration =>
    obtain ⟨e, -, rfl⟩ := decode_map_eq_ok.mp hm
    rfl
  | duration =>
    obtain ⟨d, -, rfl⟩ := decode_map_eq_ok.mp hm
    rfl
  | payload hu =>
    obtain ⟨tag, p, d, -, hfind, hd⟩ := decode_eq_ok.mp hm
    -- Whatever the capability's own union decodes, the payload names the capability around it.
    obtain ⟨c, -, hmember⟩ := (Registry.payloadUnion_eq_ok hu).2 _ (mem_of_find? hfind)
    obtain ⟨-, rfl⟩ := Prod.mk.inj hmember
    obtain ⟨inner, -, rfl⟩ := Except.map_eq_ok.mp hd
    rfl
  | family f payload =>
    obtain ⟨tag, p, d, -, hfind, hd⟩ := decode_eq_ok.mp hm
    rcases List.mem_append.mp (mem_of_find? hfind) with hvariant | hextension
    · obtain ⟨w, -, hmember⟩ := List.mem_map.mp hvariant
      obtain ⟨-, rfl⟩ := Prod.mk.inj hmember
      obtain ⟨values, -, rfl⟩ := Except.map_eq_ok.mp hd
      rfl
    · obtain ⟨-, rfl⟩ := Prod.mk.inj (List.mem_singleton.mp hextension)
      obtain ⟨inner, -, rfl⟩ := Except.map_eq_ok.mp hd
      rfl
  | capability hc f => rfl

/-- A union lets pass what is of its type and decodes all other JSON values. -/
theorem HasBase.coerce_raw (h : u.HasBase b) (v : Json) :
    u.coerce (.raw v)
      = if b.admits (.raw v) then .ok (.raw v) else .decoded <$> u.decode v := by
  unfold coerce
  rw [h.base_eq]

/-- A union lets pass what it has decoded. -/
theorem HasBase.coerce_decoded (h : u.HasBase b) {v : Json} {m : Message}
    (hm : u.decode v = .ok m) : u.coerce (.decoded m) = .ok (.decoded m) := by
  unfold coerce
  rw [h.base_eq, if_pos (h.admits_of_decode hm)]

/-- Every union lets pass what it has decoded, which is of its type. It decodes what it
    is given besides exactly if not everything is of its type: that is so for all unions
    but those of the capabilities, which let every JSON value pass. -/
theorem coerce_decodes_iff (h : u.HasBase b) :
    (∀ v m, u.decode v = .ok m →
        b.admits (.decoded m) = true ∧ u.coerce (.decoded m) = .ok (.decoded m))
      ∧ (∀ v, u.coerce (.raw v)
          = if b.admits (.raw v) then .ok (.raw v) else .decoded <$> u.decode v)
      ∧ ((∀ v, u.coerce (.raw v) = .decoded <$> u.decode v) ↔ b ≠ .anything) := by
  refine ⟨fun v m hm => ⟨h.admits_of_decode hm, h.coerce_decoded hm⟩, h.coerce_raw, ?_⟩
  simp only [h.coerce_raw, b.admits_raw, decide_eq_true_eq]
  constructor
  · intro hall hb
    -- Null is let pass where everything is, and no union decodes it.
    have hnull := hall .null
    rw [if_pos hb] at hnull
    cases hnull
  · intro hb v
    rw [if_neg hb]

/-- A call for the harvest. -/
def harvestCall : Json := .object [("harvest", .object [])]

/-- The call is decoded as the payload for the keeper, and passes as such. -/
theorem coerce_decodes_iff_keeperPayload :
    ∃ u, Registry.standard.payloadUnion .execute ["keeper"] = .ok u ∧ u.HasBase .capability
      ∧ u.decode (.object [("keeper", harvestCall)])
        = .ok (.capability "keeper" (.variant Capability.Keeper.harvest []))
      ∧ u.coerce (.decoded (.capability "keeper" (.variant Capability.Keeper.harvest [])))
        = .ok (.decoded (.capability "keeper" (.variant Capability.Keeper.harvest [])))
      ∧ u.coerce (.raw (.object [("keeper", harvestCall)]))
        = .ok (.decoded (.capability "keeper" (.variant Capability.Keeper.harvest []))) := by
  obtain ⟨u, hu⟩ : ∃ u, Registry.standard.payloadUnion .execute ["keeper"] = .ok u := ⟨_, rfl⟩
  have hbase : u.HasBase .capability := .payload hu
  obtain ⟨hpasses, -, hdecodes⟩ := coerce_decodes_iff hbase
  have hdecoded : u.decode (.object [("keeper", harvestCall)])
      = .ok (.capability "keeper" (.variant Capability.Keeper.harvest [])) := by
    cases hu
    rfl
  refine ⟨u, hu, hbase, hdecoded, (hpasses _ _ hdecoded).2, ?_⟩
  rw [hdecodes.mpr (by decide), hdecoded]
  rfl

/-- The union of the keeper's commands decodes the call, but lets it pass as it is. So not
    every union decodes what it is given. -/
theorem coerce_passes_harvestCall :
    Capability.Keeper.execute.HasBase .anything
      ∧ Capability.Keeper.execute.decode harvestCall = .ok (.variant Capability.Keeper.harvest [])
      ∧ Capability.Keeper.execute.coerce (.raw harvestCall) = .ok (.raw harvestCall)
      ∧ ¬ ∀ (u : TaggedUnion Message) (b : Base), u.HasBase b →
        ∀ v, u.coerce (.raw v) = .decoded <$> u.decode v := by
  have hkeeper : Capability.keeper ∈ Registry.standard :=
    List.mem_cons_of_mem _ (List.mem_cons_self ..)
  have hbase : Capability.Keeper.execute.HasBase .anything := .capability hkeeper .execute
  refine ⟨hbase, rfl, rfl, ?_⟩
  intro hall
  have hcall := hall _ _ hbase harvestCall
  cases hcall

end TaggedUnion

end ShareVault
