import ShareVault.Proofs.Json.ValueText
import ShareVault.Proofs.Message.Shape

/-! # Values of all declared types

    Responses have the types that fields have, and three more: what a vault says
    about its tokens, what it says about the standard, and the record without
    fields. A value that is loaded by such a type is a value of the type, and so
    is dumped to something that is loaded as the same value.

    What the dump writes may still be unwritable, for the text of a value shows
    surrogates as they are, and there are no bytes for them. Nothing else stands
    in the way, and surrogates are never made: they come out only where they went
    in.

    Main statements:
    - `contains_of_load`: what is loaded is a value of the type;
    - `load_dump`: a value of a type is loaded from its dump;
    - `isWellFormed_dump`: a dump has surrogates only if they were loaded;
    - `Contains.roundTrips`: a value of a type is written unless its dump has
      surrogates, and what is written is loaded as the value.
-/

namespace ShareVault

/-! ## Well-formed values -/

namespace Json

theorem isWellFormed_array_iff {vs : List Json} :
    (array vs).isWellFormed = true ↔ ∀ v ∈ vs, v.isWellFormed = true := by
  show wellFormedItems vs = true ↔ _
  induction vs with
  | nil => simp [wellFormedItems]
  | cons v vs ih => simp [wellFormedItems, ih]

theorem isWellFormed_object_iff {ms : Members} :
    (object ms).isWellFormed = true
      ↔ ∀ p ∈ ms, Text.isWellFormed p.1 = true ∧ p.2.isWellFormed = true := by
  show wellFormedMembers ms = true ↔ _
  induction ms with
  | nil => simp [wellFormedMembers]
  | cons p ms ih =>
    obtain ⟨k, v⟩ := p
    simp [wellFormedMembers, ih, and_assoc]

theorem plainItems_iff {vs : List Json} : PlainItems vs ↔ ∀ v ∈ vs, v.IsPlain := by
  induction vs with
  | nil => simp [PlainItems]
  | cons v vs ih => simp [PlainItems, ih]

end Json

/-! ## Tokens and lockups -/

theorem isWellFormed_numeral (n : Nat) : (numeral n).isWellFormed = true :=
  Text.isWellFormed_decimal n

namespace VaultInfo

theorem read_eq_ok {origin : Origin} {v : Json} {i : VaultInfo} :
    read origin v = .ok i ↔ ∃ m : Members, v = .object m
      ∧ (∀ k ∈ Members.keys m, k ∈ fieldNames)
      ∧ (∃ w, m.get? "base_token" = some w ∧ i.baseToken.Written w)
      ∧ ∃ w, m.get? "vault_token" = some w ∧ i.vaultToken.Written w := by
  unfold read
  rw [Reader.record_eq_ok]
  apply exists_congr
  intro m
  unfold fields
  simp only [Except.map_eq_ok, Checked.both_eq_ok, Reader.field_eq_ok, Token.read_eq_ok]
  constructor
  · rintro ⟨rfl, hkeys, ⟨base, vault⟩, ⟨hbase, hvault⟩, rfl⟩
    exact ⟨rfl, hkeys, hbase, hvault⟩
  · rintro ⟨rfl, hkeys, hbase, hvault⟩
    exact ⟨rfl, hkeys, (i.baseToken, i.vaultToken), ⟨hbase, hvault⟩, rfl⟩

theorem read_toJson (origin : Origin) (i : VaultInfo) : read origin i.toJson = .ok i :=
  read_eq_ok.mpr ⟨_, rfl, fun _ h => h, ⟨_, rfl, Token.written_toWire _⟩,
    ⟨_, rfl, Token.written_toWire _⟩⟩

theorem isPlain_toJson (i : VaultInfo) : i.toJson.IsPlain :=
  ⟨show fieldNames.Nodup by decide, Token.isPlain_toWire _, Token.isPlain_toWire _, trivial⟩

end VaultInfo

namespace StandardInfo

/-- The version fits into the field that holds it. -/
def fits (i : StandardInfo) : Prop := i.version < twoTo 16

theorem tuple_eq_ok {α : Type} {origin : Origin} {read : Json → Checked α} {v : Json}
    {as : List α} :
    Reader.tuple origin read v = .ok as ↔
      ∃ vs, v = .array vs ∧ List.Forall₂ (fun v a => read v = .ok a) vs as := by
  cases v with
  | array vs => simp [Reader.tuple, Reader.itemsFrom_eq_ok]
  | _ => simp [Reader.tuple, Checked.fail]

theorem read_eq_ok {origin : Origin} {v : Json} {i : StandardInfo} :
    read origin v = .ok i ↔ ∃ m : Members, v = .object m
      ∧ (∀ k ∈ Members.keys m, k ∈ fieldNames)
      ∧ (m.get? "version" = some (.int i.version) ∧ i.fits)
      ∧ ((m.get? "extensions" = none ∧ i.extensions = [])
        ∨ m.get? "extensions" = some (.array (i.extensions.map .text))) := by
  have htexts : ∀ {w : Json} {ts : List Text},
      Reader.tuple origin Reader.text w = .ok ts ↔ w = .array (ts.map .text) := by
    intro w ts
    have hitems : ∀ vs, List.Forall₂ (fun v a => Reader.text v = .ok a) vs ts
        ↔ vs = ts.map .text := by
      intro vs
      simp only [Reader.text_eq_ok]
      rw [← List.forall₂_eq_eq_eq, List.forall₂_map_right_iff]
    simp only [tuple_eq_ok, hitems, exists_eq_right]
  unfold read
  rw [Reader.record_eq_ok]
  apply exists_congr
  intro m
  unfold fields
  simp only [Except.map_eq_ok, Checked.both_eq_ok, Reader.field_eq_ok, Reader.fieldOr_eq_ok,
    Reader.word_eq_ok, htexts]
  constructor
  · rintro ⟨rfl, hkeys, ⟨version, extensions⟩, ⟨⟨_, hversion, rfl, hfits⟩, hextensions⟩, rfl⟩
    refine ⟨rfl, hkeys, ⟨hversion, hfits⟩, ?_⟩
    rcases hextensions with hnone | ⟨w, hw, rfl⟩
    · exact .inl hnone
    · exact .inr hw
  · rintro ⟨rfl, hkeys, ⟨hversion, hfits⟩, hextensions⟩
    refine ⟨rfl, hkeys, (i.version, i.extensions), ⟨⟨_, hversion, rfl, hfits⟩, ?_⟩, rfl⟩
    rcases hextensions with hnone | hsome
    · exact .inl hnone
    · exact .inr ⟨_, hsome, rfl⟩

theorem read_toJson (origin : Origin) {i : StandardInfo} (h : i.fits) :
    read origin i.toJson = .ok i :=
  read_eq_ok.mpr ⟨_, rfl, fun _ h => h, ⟨rfl, h⟩, .inr rfl⟩

theorem isPlain_toJson {i : StandardInfo} (h : i.fits) : i.toJson.IsPlain := by
  refine ⟨show fieldNames.Nodup by decide, isPlain_int (by decide) h, ?_, trivial⟩
  exact Json.plainItems_iff.mpr (List.forall_mem_map.mpr fun _ _ => trivial)

end StandardInfo

/-! ## Types and their values -/

namespace Shape

/-- The types of responses: those of fields, records about a vault, and whatever
    options and lists make of them. -/
inductive IsDeclared : Shape → Prop where
  | field {s : Shape} (hs : s.isTyped = true) : IsDeclared s
  | vaultInfo : IsDeclared .vaultInfo
  | standardInfo : IsDeclared .standardInfo
  | empty : IsDeclared .empty
  | optional {s : Shape} (hs : IsDeclared s) : IsDeclared (.optional s)
  | list {s : Shape} (hs : IsDeclared s) : IsDeclared (.list s)

/-- The values of a type. -/
inductive Contains : Shape → Value → Prop where
  | field {s : Shape} {x : Value} (hs : s.isTyped = true) (h : s.Holds x) : Contains s x
  | vaultInfo (i : VaultInfo) : Contains .vaultInfo (.vaultInfo i)
  | standardInfo {i : StandardInfo} (hfits : i.fits) : Contains .standardInfo (.standardInfo i)
  | empty : Contains .empty .empty
  | null {s : Shape} : Contains (.optional s) .null
  | some {s : Shape} {x : Value} (h : Contains s x) : Contains (.optional s) x
  | list {s : Shape} {xs : List Value} (h : ∀ x ∈ xs, Contains s x) :
    Contains (.list s) (.list xs)

theorem contains_of_load {origin : Origin} {s : Shape} (hs : s.IsDeclared) {v : Json} {x : Value}
    (h : s.load origin v = .ok x) : s.Contains x := by
  induction hs generalizing v x with
  | field hs => exact .field hs (written_of_load hs h).holds
  | vaultInfo =>
    obtain ⟨i, -, rfl⟩ := Except.map_eq_ok.mp h
    exact .vaultInfo i
  | standardInfo =>
    obtain ⟨i, hi, rfl⟩ := Except.map_eq_ok.mp h
    obtain ⟨-, -, -, ⟨-, hfits⟩, -⟩ := StandardInfo.read_eq_ok.mp hi
    exact .standardInfo hfits
  | empty =>
    obtain ⟨_, -, rfl⟩ := Except.map_eq_ok.mp h
    exact .empty
  | optional hs ih =>
    obtain ⟨o, ho, rfl⟩ := Except.map_eq_ok.mp h
    rcases Reader.optional_eq_ok.mp ho with ⟨rfl, rfl⟩ | ⟨-, y, hy, rfl⟩
    · exact .null
    · exact .some (ih hy)
  | list hs ih =>
    obtain ⟨xs, hxs, rfl⟩ := Except.map_eq_ok.mp h
    obtain ⟨vs, rfl, hall⟩ := Reader.items_eq_ok.mp hxs
    apply Contains.list
    clear h hxs
    induction hall with
    | nil =>
      intro x hx
      cases hx
    | cons hy _ ihRest => exact List.forall_mem_cons.mpr ⟨ih hy, ihRest⟩

/-! ## Dumping and loading again -/

section Contains

variable {s : Shape} {x : Value}

theorem Contains.eq_null (h : s.Contains x) (hx : x.isNull = true) : x = .null := by
  induction h with
  | field hs h => exact h.eq_null hx
  | null => rfl
  | some h ih => exact ih hx
  | _ => cases hx

theorem Contains.dump_ne_null (h : s.Contains x) (hx : x.isNull = false) : s.dump x ≠ .null := by
  induction h with
  | field hs h => exact Shape.dump_ne_null h hx
  | null => cases hx
  | some h ih =>
    rw [dump_optional, hx]
    exact ih hx
  | vaultInfo i => simp [dump, Value.toJson, VaultInfo.toJson]
  | standardInfo hfits => simp [dump, Value.toJson, StandardInfo.toJson]
  | empty => simp [dump, Value.toJson]
  | list h ih => simp [dump]

/-- A value of a type is loaded from its dump. -/
theorem load_dump (origin : Origin) (h : s.Contains x) : s.load origin (s.dump x) = .ok x := by
  induction h with
  | field hs h => exact (written_dump hs h).load
  | vaultInfo i => exact Except.map_eq_ok.mpr ⟨i, VaultInfo.read_toJson origin i, rfl⟩
  | standardInfo hfits => exact Except.map_eq_ok.mpr ⟨_, StandardInfo.read_toJson origin hfits, rfl⟩
  | empty => rfl
  | null => rfl
  | @some s x h ih =>
    rw [dump_optional]
    cases hx : x.isNull with
    | true =>
      rw [h.eq_null hx]
      rfl
    | false =>
      unfold load
      rw [if_neg Bool.false_ne_true, Reader.optional_of_ne_null (h.dump_ne_null hx), ih]
      rfl
  | @list s xs h ih =>
    refine Except.map_eq_ok.mpr ⟨xs, Reader.items_eq_ok.mpr ⟨xs.map s.dump, dump_list s xs, ?_⟩, rfl⟩
    rw [List.forall₂_map_left_iff, List.forall₂_same]
    exact ih

theorem Contains.isPlain_dump (h : s.Contains x) : (s.dump x).IsPlain := by
  induction h with
  | field hs h => exact Shape.isPlain_dump hs h
  | vaultInfo i => exact i.isPlain_toJson
  | standardInfo hfits => exact StandardInfo.isPlain_toJson hfits
  | empty => exact ⟨List.nodup_nil, trivial⟩
  | null => trivial
  | some h ih =>
    rw [dump_optional]
    split
    · trivial
    · exact ih
  | list h ih => exact Json.plainItems_iff.mpr (List.forall_mem_map.mpr ih)

end Contains

/-! ## Surrogates -/

theorem isShallow_of_isTyped {s : Shape} (hs : s.isTyped = true) (x : Value) :
    s.isShallow x = true := by
  induction s generalizing x with
  | any => cases hs
  | optional s ih =>
    show (x.isNull || s.isShallow x) = true
    rw [ih hs x, Bool.or_true]
  | list s ih =>
    cases x with
    | list xs => exact List.all_eq_true.mpr fun y _ => ih hs y
    | _ => rfl
  | _ => rfl

/-- Only what may be anything can be nested too deep. -/
theorem IsDeclared.isShallow {s : Shape} (hs : s.IsDeclared) (x : Value) :
    s.isShallow x = true := by
  induction hs generalizing x with
  | field hs => exact isShallow_of_isTyped hs x
  | @optional s hs ih =>
    show (x.isNull || s.isShallow x) = true
    rw [ih x, Bool.or_true]
  | @list s hs ih =>
    cases x with
    | list xs => exact List.all_eq_true.mpr fun y _ => ih y
    | _ => rfl
  | _ => rfl

theorem dumpText?_eq_some_iff {s : Shape} (hs : s.IsDeclared) {x : Value} {t : Text} :
    s.dumpText? x = some t ↔ (s.dump x).isWellFormed = true ∧ (s.dump x).write .value = t := by
  unfold dumpText? Json.valueText?
  rw [if_pos (hs.isShallow x), Option.ite_none_right_eq_some, Option.some.injEq]

/-- A value is written exactly if its dump has no surrogates, and what is written
    is loaded as the value. -/
structure RoundTrips (s : Shape) (x : Value) : Prop where
  written : (∃ t, s.dumpText? x = some t) ↔ (s.dump x).isWellFormed = true
  loaded : ∀ t, s.dumpText? x = some t →
    ∃ v, (Source.bytes (Encoding.encodeUtf8 t)).json .unlimited = .ok v ∧ s.load .value v = .ok x

theorem Contains.roundTrips {s : Shape} (hs : s.IsDeclared) {x : Value} (h : s.Contains x) :
    s.RoundTrips x := by
  refine ⟨?_, ?_⟩
  · simp [dumpText?_eq_some_iff hs]
  · intro t ht
    obtain ⟨-, rfl⟩ := (dumpText?_eq_some_iff hs).mp ht
    exact ⟨_, Json.json_valueText h.isPlain_dump, load_dump .value h⟩

end Shape

end ShareVault
