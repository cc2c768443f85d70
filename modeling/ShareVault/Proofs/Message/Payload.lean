import ShareVault.Message.Families
import ShareVault.Proofs.Message.Shape

/-! # Payloads and the values in them

    A payload writes the values of the fields of a variant. Its members come in
    any order, and a field with a default may be left out when the default is its
    value. A variant that carries one value alone has the defaults in the others.

    The facts are about proper variants: tag and names are without surrogates, no
    two fields have one name, and a default is a value of the type of its field.

    Main statements:
    - `decodeValues_eq_ok`: exactly the payloads that write the values decode to them;
    - `written_payload`: the payload of the values is one of them;
    - `isJoined_of_written_joined`: a payload that survives the joining of
      surrogates has none to join.
-/

namespace ShareVault

theorem Members.get?_of_mem {m : Members} (hnodup : (Members.keys m).Nodup) {k : Text} {v : Json}
    (h : (k, v) ∈ m) : m.get? k = some v := by
  induction m with
  | nil => cases h
  | cons p m ih =>
    obtain ⟨k', v'⟩ := p
    have hrest := List.nodup_cons.mp hnodup
    unfold get?
    rcases List.mem_cons.mp h with heq | hmem
    · rw [Prod.mk.injEq] at heq
      rw [if_pos heq.1.symm, heq.2]
    · have hne : k' ≠ k := by
        rintro rfl
        exact hrest.1 (List.mem_map.mpr ⟨(k', v), hmem, rfl⟩)
      rw [if_neg hne]
      exact ih hrest.2 hmem

/-! ## Fields -/

namespace Field

/-- The value of a field is written among the members, or left out for the
    default. -/
def Written (f : Field) (x : Value) (m : Members) : Prop :=
  (∃ v, m.get? f.name = some v ∧ f.shape.Written x v)
    ∨ (m.get? f.name = none ∧ f.default = some x)

/-- A field of a declared type, with a value of the type as default if there is
    one. -/
structure IsProper (f : Field) : Prop where
  name : f.name.isWellFormed = true
  shape : f.shape.isTyped = true
  default : ∀ x, f.default = some x → f.shape.Holds x

/-- Whether a field is required, or optional and null when it is not there. -/
def isBasic (f : Field) : Bool :=
  f.name.isWellFormed && f.shape.isTyped &&
    match f.default, f.shape with
    | none, _ => true
    | some .null, .optional _ => true
    | _, _ => false

theorem isProper_of_isBasic {f : Field} (h : f.isBasic = true) : f.IsProper := by
  obtain ⟨name, shape, default⟩ := f
  simp only [isBasic, Bool.and_eq_true] at h
  obtain ⟨⟨hname, hshape⟩, hdefault⟩ := h
  refine ⟨hname, hshape, ?_⟩
  rintro x rfl
  split at hdefault
  · next heq => cases heq
  · next heq =>
    cases heq
    exact .null
  · cases hdefault

theorem Written.holds {f : Field} (hf : f.IsProper) {x : Value} {m : Members}
    (h : f.Written x m) : f.shape.Holds x := by
  rcases h with ⟨v, -, hv⟩ | ⟨-, hdefault⟩
  · exact hv.holds
  · exact hf.default x hdefault

end Field

namespace Variant

theorem loadField_eq_ok {f : Field} (hf : f.IsProper) {m : Members} {x : Value} :
    loadField m f = .ok x ↔ f.Written x m := by
  unfold loadField Field.Written
  cases hdefault : f.default with
  | none => simp [Reader.field_eq_ok, Shape.load_eq_ok hf.shape]
  | some d =>
    simp only [Reader.fieldOr_eq_ok, Shape.load_eq_ok hf.shape, Option.some.injEq]
    rw [or_comm, eq_comm (a := x)]

theorem loadFields_eq_ok {m : Members} {fields : List Field} (hfields : ∀ f ∈ fields, f.IsProper)
    {values : List Value} :
    loadFields m fields = .ok values ↔
      List.Forall₂ (fun f x => f.Written x m) fields values := by
  induction fields generalizing values with
  | nil =>
    simp only [loadFields, Except.ok.injEq, List.forall₂_nil_left_iff]
    exact eq_comm
  | cons f fields ih =>
    obtain ⟨hf, hrest⟩ := List.forall_mem_cons.mp hfields
    simp only [loadFields, Except.map_eq_ok, Checked.both_eq_ok, loadField_eq_ok hf, ih hrest]
    constructor
    · rintro ⟨⟨x, xs⟩, ⟨hx, hxs⟩, rfl⟩
      exact .cons hx hxs
    · intro h
      cases h with
      | cons hx hxs => exact ⟨(_, _), ⟨hx, hxs⟩, rfl⟩

theorem dumpFields_eq_map (fields : List Field) (values : List Value) :
    dumpFields fields values
      = (fields.zip values).map fun p => (p.1.name, p.1.shape.dump p.2) := by
  induction fields generalizing values with
  | nil => rfl
  | cons f fields ih =>
    cases values with
    | nil => rfl
    | cons x xs =>
      unfold dumpFields
      rw [ih]
      rfl

theorem keys_dumpFields {fields : List Field} {values : List Value}
    (hlength : fields.length = values.length) :
    Members.keys (dumpFields fields values) = fields.map Field.name := by
  have hfst : (fields.zip values).map Prod.fst = fields :=
    List.map_fst_zip (Nat.le_of_eq hlength)
  unfold Members.keys
  rw [dumpFields_eq_map, List.map_map]
  conv_rhs => rw [← hfst]
  rw [List.map_map]
  rfl

/-! ## Proper variants -/

/-- Tag and names are without surrogates, no two fields have one name, and all
    fields are proper. -/
structure IsProper (v : Variant) : Prop where
  tag : v.tag.isWellFormed = true
  names : (v.fields.map Field.name).Nodup
  fields : ∀ f ∈ v.fields, f.IsProper

/-- Whether a variant has different fields that are required or may be null. -/
def isBasic (v : Variant) : Bool :=
  v.tag.isWellFormed && decide (v.fields.map Field.name).Nodup && v.fields.all Field.isBasic

theorem isProper_of_isBasic {v : Variant} (h : v.isBasic = true) : v.IsProper := by
  simp only [isBasic, Bool.and_eq_true, decide_eq_true_eq, List.all_eq_true] at h
  obtain ⟨⟨htag, hnames⟩, hfields⟩ := h
  refine ⟨htag, hnames, ?_⟩
  intro f hf
  exact Field.isProper_of_isBasic (hfields f hf)

/-- The payloads that write values of the fields. -/
inductive Written (v : Variant) : List Value → Json → Prop where
  /-- The members are those of fields, and each field is written. -/
  | struct {fields : List Field} {values : List Value} {m : Members}
      (hlayout : v.layout = .struct fields)
      (hkeys : ∀ k ∈ Members.keys m, k ∈ fields.map Field.name)
      (hfields : List.Forall₂ (fun f x => f.Written x m) fields values) :
    Written v values (.object m)
  /-- The first field is written alone, and the others have their defaults. -/
  | newtype {f : Field} {others : List Field} {x : Value} {xs : List Value} {payload : Json}
      (hlayout : v.layout = .newtype f others) (hvalue : f.shape.Written x payload)
      (hothers : List.Forall₂ (fun g y => g.default = some y) others xs) :
    Written v (x :: xs) payload

theorem fields_of_struct {v : Variant} {fields : List Field} (h : v.layout = .struct fields) :
    v.fields = fields := by
  unfold Variant.fields
  rw [h]

theorem fields_of_newtype {v : Variant} {f : Field} {others : List Field}
    (h : v.layout = .newtype f others) : v.fields = f :: others := by
  unfold Variant.fields
  rw [h]

theorem payload_of_struct {v : Variant} {fields : List Field} (h : v.layout = .struct fields)
    (values : List Value) : v.payload values = .object (dumpFields fields values) := by
  unfold payload
  rw [h]

theorem payload_of_newtype {v : Variant} {f : Field} {others : List Field}
    (h : v.layout = .newtype f others) (x : Value) (xs : List Value) :
    v.payload (x :: xs) = f.shape.dump x := by
  unfold payload
  rw [h]

theorem written_struct_iff {v : Variant} {fields : List Field} (h : v.layout = .struct fields)
    {values : List Value} {payload : Json} :
    v.Written values payload ↔ ∃ m, payload = .object m
      ∧ (∀ k ∈ Members.keys m, k ∈ fields.map Field.name)
      ∧ List.Forall₂ (fun f x => f.Written x m) fields values := by
  constructor
  · intro hw
    cases hw with
    | struct hlayout hkeys hfields =>
      rw [h, Layout.struct.injEq] at hlayout
      subst hlayout
      exact ⟨_, rfl, hkeys, hfields⟩
    | newtype hlayout _ _ =>
      rw [h] at hlayout
      cases hlayout
  · rintro ⟨m, rfl, hkeys, hfields⟩
    exact .struct h hkeys hfields

theorem written_newtype_iff {v : Variant} {f : Field} {others : List Field}
    (h : v.layout = .newtype f others) {values : List Value} {payload : Json} :
    v.Written values payload ↔ ∃ x xs, values = x :: xs ∧ f.shape.Written x payload
      ∧ List.Forall₂ (fun g y => g.default = some y) others xs := by
  constructor
  · intro hw
    cases hw with
    | struct hlayout _ _ =>
      rw [h] at hlayout
      cases hlayout
    | newtype hlayout hvalue hothers =>
      rw [h, Layout.newtype.injEq] at hlayout
      obtain ⟨rfl, rfl⟩ := hlayout
      exact ⟨_, _, rfl, hvalue, hothers⟩
  · rintro ⟨x, xs, rfl, hvalue, hothers⟩
    exact .newtype h hvalue hothers

/-! ## Decoding -/

/-- Among the members of a payload that is one value, the first field alone is
    written. -/
theorem forall₂_written_singleton {f : Field} {others : List Field} {payload : Json}
    (hnodup : ((f :: others).map Field.name).Nodup) {values : List Value} :
    List.Forall₂ (fun g x => g.Written x [(f.name, payload)]) (f :: others) values ↔
      ∃ x xs, values = x :: xs ∧ f.shape.Written x payload
        ∧ List.Forall₂ (fun g y => g.default = some y) others xs := by
  have hfound : Members.get? f.name [(f.name, payload)] = some payload := by
    unfold Members.get?
    rw [if_pos rfl]
  -- The other names differ from that of the first field, so they are not there.
  have habsent : ∀ g ∈ others, Members.get? g.name [(f.name, payload)] = none := by
    intro g hg
    have hne : f.name ≠ g.name := by
      intro heq
      apply (List.nodup_cons.mp hnodup).1
      rw [heq]
      exact List.mem_map_of_mem hg
    unfold Members.get?
    rw [if_neg hne]
    rfl
  have hfirst : ∀ x, f.Written x [(f.name, payload)] ↔ f.shape.Written x payload := by
    intro x
    simp [Field.Written, hfound]
  have hothers : ∀ xs, List.Forall₂ (fun g y => g.Written y [(f.name, payload)]) others xs
      ↔ List.Forall₂ (fun g y => g.default = some y) others xs := by
    intro xs
    rw [List.forall₂_iff_zip, List.forall₂_iff_zip]
    apply and_congr_right
    intro _
    apply forall_congr'
    intro g
    apply forall_congr'
    intro y
    apply imp_congr_right
    intro hmem
    simp [Field.Written, habsent g (List.of_mem_zip hmem).1]
  rw [List.forall₂_cons_left_iff]
  constructor
  · rintro ⟨x, xs, hx, hxs, rfl⟩
    exact ⟨x, xs, rfl, (hfirst x).mp hx, (hothers xs).mp hxs⟩
  · rintro ⟨x, xs, rfl, hx, hxs⟩
    exact ⟨x, xs, (hfirst x).mpr hx, (hothers xs).mpr hxs, rfl⟩

theorem decodeValues_eq_ok {v : Variant} (hv : v.IsProper) {payload : Json}
    {values : List Value} : v.decodeValues payload = .ok values ↔ v.Written values payload := by
  have hfields := hv.fields
  have hnames := hv.names
  unfold decodeValues
  cases hlayout : v.layout with
  | struct fields =>
    rw [fields_of_struct hlayout] at hfields
    rw [written_struct_iff hlayout]
    simp only [structPayload_eq_ok, loadFields_eq_ok hfields]
  | newtype f others =>
    rw [fields_of_newtype hlayout] at hfields hnames
    rw [written_newtype_iff hlayout]
    simp only [Except.mapError_eq_ok, loadFields_eq_ok hfields, forall₂_written_singleton hnames]

/-- What is written are values of the types of the fields. -/
theorem Written.holds {v : Variant} (hv : v.IsProper) {payload : Json} {values : List Value}
    (h : v.Written values payload) :
    List.Forall₂ (fun f x => f.shape.Holds x) v.fields values := by
  have hfields := hv.fields
  cases h with
  | struct hlayout hkeys hall =>
    rw [fields_of_struct hlayout] at hfields ⊢
    exact ((List.forall₂_and_left _ _).mpr ⟨hfields, hall⟩).imp fun _ _ hf => hf.2.holds hf.1
  | newtype hlayout hvalue hothers =>
    rw [fields_of_newtype hlayout] at hfields ⊢
    obtain ⟨-, hrest⟩ := List.forall_mem_cons.mp hfields
    refine .cons hvalue.holds ?_
    exact ((List.forall₂_and_left _ _).mpr ⟨hrest, hothers⟩).imp fun _ x hf => hf.1.default x hf.2

/-! ## The members of the values -/

section Dumped

variable {fields : List Field} {values : List Value} (hfields : ∀ f ∈ fields, f.IsProper)
  (hnames : (fields.map Field.name).Nodup)
  (hholds : List.Forall₂ (fun f x => f.shape.Holds x) fields values)

include hnames hholds

theorem nodup_keys_dumpFields : (Members.keys (dumpFields fields values)).Nodup := by
  rw [keys_dumpFields hholds.length_eq]
  exact hnames

theorem get?_dumpFields {f : Field} {x : Value} (hmem : (f, x) ∈ fields.zip values) :
    Members.get? f.name (dumpFields fields values) = some (f.shape.dump x) := by
  apply Members.get?_of_mem (nodup_keys_dumpFields hnames hholds)
  rw [dumpFields_eq_map]
  exact List.mem_map.mpr ⟨(f, x), hmem, rfl⟩

include hfields

theorem written_dumpFields :
    List.Forall₂ (fun f x => f.Written x (dumpFields fields values)) fields values := by
  rw [List.forall₂_iff_zip]
  refine ⟨hholds.length_eq, ?_⟩
  intro f x hmem
  have hf := hfields f (List.of_mem_zip hmem).1
  have hx := (List.forall₂_iff_zip.mp hholds).2 hmem
  exact .inl ⟨_, get?_dumpFields hnames hholds hmem, Shape.written_dump hf.shape hx⟩

theorem isPlain_dumpFields : (Json.object (dumpFields fields values)).IsPlain := by
  refine ⟨nodup_keys_dumpFields hnames hholds, ?_⟩
  rw [dumpFields_eq_map, Json.plainMembers_iff, List.forall_mem_map]
  rintro ⟨f, x⟩ hmem
  have hf := hfields f (List.of_mem_zip hmem).1
  have hx := (List.forall₂_iff_zip.mp hholds).2 hmem
  exact Shape.isPlain_dump hf.shape hx

/-- Names do not change when surrogates are joined. -/
theorem joined_dumpFields : (Json.object (dumpFields fields values)).joined
    = .object ((dumpFields fields values).map fun p => (p.1, p.2.joined)) := by
  apply Json.joined_object _ (nodup_keys_dumpFields hnames hholds)
  rw [keys_dumpFields hholds.length_eq, List.forall_mem_map]
  intro f hf
  exact (hfields f hf).name

theorem isJoined_dumpFields
    (hjoined : List.Forall₂ (fun f x => f.Written x
      ((dumpFields fields values).map fun p => (p.1, p.2.joined))) fields values) :
    (Json.object (dumpFields fields values)).IsJoined := by
  rw [Json.isJoined_object, dumpFields_eq_map, List.forall_mem_map]
  rintro ⟨f, x⟩ hmem
  have hf := hfields f (List.of_mem_zip hmem).1
  have hx := (List.forall₂_iff_zip.mp hholds).2 hmem
  have hget := get?_dumpFields hnames hholds hmem
  refine ⟨Text.isJoined_of_isWellFormed hf.name, Shape.isJoined_of_written_joined hx ?_⟩
  -- The field is there, so its value is written by what is there.
  rcases (List.forall₂_iff_zip.mp hjoined).2 hmem with ⟨w, hw, hwritten⟩ | ⟨hnone, -⟩
  · rw [Members.get?_map, hget, Option.map_some, Option.some.injEq] at hw
    rw [hw]
    exact hwritten
  · rw [Members.get?_map, hget] at hnone
    cases hnone

end Dumped

/-! ## The payload of the values -/

section Payload

variable {v : Variant} (hv : v.IsProper) {payload : Json} {values : List Value}
  (h : v.Written values payload)

include hv h

theorem written_payload : v.Written values (v.payload values) := by
  have hholds := h.holds hv
  have hfields := hv.fields
  have hnames := hv.names
  cases h with
  | struct hlayout hkeys hall =>
    rw [fields_of_struct hlayout] at hfields hnames hholds
    rw [payload_of_struct hlayout]
    refine .struct hlayout ?_ (written_dumpFields hfields hnames hholds)
    intro k hk
    rw [keys_dumpFields hholds.length_eq] at hk
    exact hk
  | newtype hlayout hvalue hothers =>
    rw [fields_of_newtype hlayout] at hfields
    rw [payload_of_newtype hlayout]
    have hf := (List.forall_mem_cons.mp hfields).1
    exact .newtype hlayout (Shape.written_dump hf.shape hvalue.holds) hothers

theorem isPlain_payload : (v.payload values).IsPlain := by
  have hholds := h.holds hv
  have hfields := hv.fields
  have hnames := hv.names
  cases h with
  | struct hlayout hkeys hall =>
    rw [fields_of_struct hlayout] at hfields hnames hholds
    rw [payload_of_struct hlayout]
    exact isPlain_dumpFields hfields hnames hholds
  | newtype hlayout hvalue hothers =>
    rw [fields_of_newtype hlayout] at hfields
    rw [payload_of_newtype hlayout]
    have hf := (List.forall_mem_cons.mp hfields).1
    exact Shape.isPlain_dump hf.shape hvalue.holds

/-- All values can be written, those that the payload does not carry included. -/
theorem fault?_eq_none : v.fault? values = none := by
  have hholds := h.holds hv
  unfold fault?
  rw [List.findSome?_eq_none_iff]
  rintro ⟨f, x⟩ hmem
  exact Shape.fault?_eq_none ((List.forall₂_iff_zip.mp hholds).2 hmem)

/-- If the payload with its surrogates joined still writes the values, then there
    were none to join. -/
theorem isJoined_of_written_joined (hjoined : v.Written values (v.payload values).joined) :
    (v.payload values).IsJoined := by
  have hholds := h.holds hv
  have hfields := hv.fields
  have hnames := hv.names
  cases h with
  | struct hlayout hkeys hall =>
    rw [fields_of_struct hlayout] at hfields hnames hholds
    rw [written_struct_iff hlayout, payload_of_struct hlayout,
      joined_dumpFields hfields hnames hholds] at hjoined
    obtain ⟨m, hm, -, hall'⟩ := hjoined
    injection hm with hm
    subst hm
    rw [payload_of_struct hlayout]
    exact isJoined_dumpFields hfields hnames hholds hall'
  | newtype hlayout hvalue hothers =>
    rw [written_newtype_iff hlayout, payload_of_newtype hlayout] at hjoined
    obtain ⟨y, ys, heq, hwritten, -⟩ := hjoined
    injection heq with hxy _
    subst hxy
    rw [payload_of_newtype hlayout]
    exact Shape.isJoined_of_written_joined hvalue.holds hwritten

end Payload

end Variant

end ShareVault
