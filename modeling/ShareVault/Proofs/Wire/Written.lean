import ShareVault.Token
import ShareVault.Lockup
import ShareVault.Proofs.Json.Joined
import ShareVault.Proofs.Wire.Reader

/-! # How tokens and lockups are written

    A value has one JSON value that stands for it, and others that are read as
    the same: a wide integer may be an integer or have leading zeros, the fields
    of a record come in any order, and a synthetic token may have its old tag.
    `Written` lists them all.

    Main statements, for each type:
    - `read_eq_ok`: exactly what is written so is read as the value;
    - `written_toWire`, `written_toJson`: the normal form is one of the ways;
    - `isJoined_of_written_joined`: a normal form that survives the joining of
      surrogates has none to join.
-/

namespace ShareVault

theorem TaggedUnion.mem_of_find? {α : Type} {u : TaggedUnion α} {tag : Text} {d : Decoder α}
    (h : u.find? tag = some d) : (tag, d) ∈ u.decoders := by
  obtain ⟨before, after, heq, -⟩ := List.lookup_eq_some_iff.mp h
  rw [heq]
  exact List.mem_append_right before (List.mem_cons_self ..)

/-- The numeral of a number that fits is one way to write it. -/
theorem WideWritten.decimal {bits n : Nat} (hbits : bits < Json.maxDigits) (hn : n < twoTo bits) :
    WideWritten n (ShareVault.numeral n) := by
  have hlength := Text.length_decimal_le hn
  exact .numeral (Text.decimal n) (Text.isDigits_decimal n) (by omega) (Text.digitsValue_decimal n)

theorem isPlain_numeral (n : Nat) : (numeral n).IsPlain := trivial

theorem isJoined_numeral (n : Nat) : (numeral n).IsJoined :=
  Text.isJoined_of_isWellFormed (Text.isWellFormed_decimal n)

/-- An integer that fits has few enough digits to be converted. -/
theorem isPlain_int {bits n : Nat} (hbits : bits < Json.maxDigits) (hn : n < twoTo bits) :
    (Json.int n).IsPlain := by
  have hlength := Text.length_decimal_le hn
  show (Text.decimal n).length ≤ Json.maxDigits
  omega

/-! ## Tokens -/

namespace Token

/-- A token under its tag, a synthetic one also under the old tag. -/
inductive Written : Token → Json → Prop where
  | native (denom : Text) : Written (.native denom) (.object [("native", .text denom)])
  | synthetic (address : Text) :
    Written (.synthetic address) (.object [("synthetic", .text address)])
  | cw20 (address : Text) : Written (.synthetic address) (.object [("cw20", .text address)])

theorem decode_eq_ok {v : Json} {t : Token} : union.decode v = .ok t ↔ t.Written v := by
  constructor
  · intro h
    obtain ⟨tag, payload, d, rfl, hd, hp⟩ := TaggedUnion.decode_eq_ok.mp h
    have hmem := TaggedUnion.mem_of_find? hd
    simp only [union, TaggedUnion.ofMembers, List.mem_cons, List.not_mem_nil, or_false,
      Prod.mk.injEq] at hmem
    rcases hmem with ⟨rfl, rfl⟩ | ⟨rfl, rfl⟩ | ⟨rfl, rfl⟩
    · obtain ⟨denom, htext, rfl⟩ := Except.map_eq_ok.mp (newtypePayload_eq_ok.mp hp)
      obtain rfl := Reader.text_eq_ok.mp htext
      exact .native denom
    · obtain ⟨address, htext, rfl⟩ := Except.map_eq_ok.mp (newtypePayload_eq_ok.mp hp)
      obtain rfl := Reader.text_eq_ok.mp htext
      exact .synthetic address
    · obtain ⟨address, htext, rfl⟩ := Except.map_eq_ok.mp (newtypePayload_eq_ok.mp hp)
      obtain rfl := Reader.text_eq_ok.mp htext
      exact .cw20 address
  · intro h
    cases h with
    | native denom => rfl
    | synthetic address => rfl
    | cw20 address => rfl

theorem read_eq_ok {v : Json} {t : Token} : read v = .ok t ↔ t.Written v :=
  TaggedUnion.field_eq_ok.trans decode_eq_ok

theorem written_toWire (t : Token) : t.Written t.toWire := decode_eq_ok.mp (decode_toWire t)

theorem isPlain_toWire (t : Token) : t.toWire.IsPlain := by
  cases t with
  | native denom => exact Json.isPlain_singleton trivial
  | synthetic address => exact Json.isPlain_singleton trivial

theorem isJoined_of_written_joined {t : Token} (h : t.Written t.toWire.joined) :
    t.toWire.IsJoined := by
  generalize hv : t.toWire.joined = v at h
  cases h with
  | native denom =>
    simp only [toWire, Json.joined_singleton, Json.object.injEq, List.cons.injEq, Prod.mk.injEq,
      and_true] at hv
    exact ⟨by decide, Json.isJoined_of_joined_text hv.2, trivial⟩
  | synthetic address =>
    simp only [toWire, Json.joined_singleton, Json.object.injEq, List.cons.injEq, Prod.mk.injEq,
      and_true] at hv
    exact ⟨by decide, Json.isJoined_of_joined_text hv.2, trivial⟩
  | cw20 address =>
    -- The tag comes back as it was written, and that is never the old one.
    simp only [toWire, Json.joined_singleton, Json.object.injEq, List.cons.injEq, Prod.mk.injEq,
      and_true] at hv
    exact absurd hv.1 (by decide)

end Token

/-! ## Expirations and durations -/

namespace Expiration

/-- An expiration under its tag, with numbers that fit. -/
inductive Written : Expiration → Json → Prop where
  | atHeight (height : Nat) (hfits : height < twoTo 64) :
    Written (.atHeight height) (.object [("at_height", .int height)])
  | atTime {nanos : Nat} {v : Json} (hwritten : WideWritten nanos v) (hfits : nanos < twoTo 64) :
    Written (.atTime nanos) (.object [("at_time", v)])
  | never : Written .never (.object [("never", .object [])])

theorem decode_eq_ok {v : Json} {e : Expiration} : union.decode v = .ok e ↔ e.Written v := by
  constructor
  · intro h
    obtain ⟨tag, payload, d, rfl, hd, hp⟩ := TaggedUnion.decode_eq_ok.mp h
    have hmem := TaggedUnion.mem_of_find? hd
    simp only [union, TaggedUnion.ofMembers, List.mem_cons, List.not_mem_nil, or_false,
      Prod.mk.injEq] at hmem
    rcases hmem with ⟨rfl, rfl⟩ | ⟨rfl, rfl⟩ | ⟨rfl, rfl⟩
    · obtain ⟨height, hword, rfl⟩ := Except.map_eq_ok.mp (newtypePayload_eq_ok.mp hp)
      obtain ⟨rfl, hfits⟩ := Reader.word_eq_ok.mp hword
      exact .atHeight height hfits
    · obtain ⟨nanos, hwide, rfl⟩ := Except.map_eq_ok.mp (newtypePayload_eq_ok.mp hp)
      obtain ⟨hwritten, hfits⟩ := Reader.wide_eq_ok.mp hwide
      exact .atTime hwritten hfits
    · obtain ⟨m, rfl, hkeys, heq⟩ := structPayload_eq_ok.mp hp
      cases heq
      obtain rfl := Members.eq_nil_of_keys hkeys
      exact .never
  · intro h
    cases h with
    | atHeight height hfits =>
      have hread := Reader.word_eq_ok.mpr ⟨rfl, hfits⟩
      rw [TaggedUnion.decode_eq_ok]
      exact ⟨_, _, _, rfl, rfl, newtypePayload_eq_ok.mpr (Except.map_eq_ok.mpr ⟨_, hread, rfl⟩)⟩
    | atTime hwritten hfits =>
      have hread := Reader.wide_eq_ok.mpr ⟨hwritten, hfits⟩
      rw [TaggedUnion.decode_eq_ok]
      exact ⟨_, _, _, rfl, rfl, newtypePayload_eq_ok.mpr (Except.map_eq_ok.mpr ⟨_, hread, rfl⟩)⟩
    | never => rfl

theorem read_eq_ok {v : Json} {e : Expiration} : read v = .ok e ↔ e.Written v :=
  TaggedUnion.field_eq_ok.trans decode_eq_ok

theorem Written.fits {e : Expiration} {v : Json} (h : e.Written v) : e.fits := by
  cases h with
  | atHeight height hfits => exact hfits
  | atTime hwritten hfits => exact hfits
  | never => trivial

theorem written_toWire {e : Expiration} (h : e.fits) : e.Written e.toWire := by
  cases e with
  | atHeight height => exact .atHeight height h
  | atTime nanos => exact .atTime (.decimal (by decide) h) h
  | never => exact .never

theorem isPlain_toWire {e : Expiration} (h : e.fits) : e.toWire.IsPlain := by
  cases e with
  | atHeight height => exact Json.isPlain_singleton (isPlain_int (by decide) h)
  | atTime nanos => exact Json.isPlain_singleton (isPlain_numeral nanos)
  | never => exact Json.isPlain_singleton ⟨List.Pairwise.nil, trivial⟩

theorem isJoined_toWire (e : Expiration) : e.toWire.IsJoined := by
  cases e with
  | atHeight height => exact ⟨by decide, trivial, trivial⟩
  | atTime nanos => exact ⟨by decide, isJoined_numeral nanos, trivial⟩
  | never => exact ⟨by decide, trivial, trivial⟩

end Expiration

namespace Duration

/-- A duration under its tag, with a number that fits. -/
inductive Written : Duration → Json → Prop where
  | height (blocks : Nat) (hfits : blocks < twoTo 64) :
    Written (.height blocks) (.object [("height", .int blocks)])
  | time (seconds : Nat) (hfits : seconds < twoTo 64) :
    Written (.time seconds) (.object [("time", .int seconds)])

theorem decode_eq_ok {v : Json} {d : Duration} : union.decode v = .ok d ↔ d.Written v := by
  constructor
  · intro h
    obtain ⟨tag, payload, c, rfl, hc, hp⟩ := TaggedUnion.decode_eq_ok.mp h
    have hmem := TaggedUnion.mem_of_find? hc
    simp only [union, TaggedUnion.ofMembers, List.mem_cons, List.not_mem_nil, or_false,
      Prod.mk.injEq] at hmem
    rcases hmem with ⟨rfl, rfl⟩ | ⟨rfl, rfl⟩
    · obtain ⟨blocks, hword, rfl⟩ := Except.map_eq_ok.mp (newtypePayload_eq_ok.mp hp)
      obtain ⟨rfl, hfits⟩ := Reader.word_eq_ok.mp hword
      exact .height blocks hfits
    · obtain ⟨seconds, hword, rfl⟩ := Except.map_eq_ok.mp (newtypePayload_eq_ok.mp hp)
      obtain ⟨rfl, hfits⟩ := Reader.word_eq_ok.mp hword
      exact .time seconds hfits
  · intro h
    cases h with
    | height blocks hfits =>
      have hread := Reader.word_eq_ok.mpr ⟨rfl, hfits⟩
      rw [TaggedUnion.decode_eq_ok]
      exact ⟨_, _, _, rfl, rfl, newtypePayload_eq_ok.mpr (Except.map_eq_ok.mpr ⟨_, hread, rfl⟩)⟩
    | time seconds hfits =>
      have hread := Reader.word_eq_ok.mpr ⟨rfl, hfits⟩
      rw [TaggedUnion.decode_eq_ok]
      exact ⟨_, _, _, rfl, rfl, newtypePayload_eq_ok.mpr (Except.map_eq_ok.mpr ⟨_, hread, rfl⟩)⟩

theorem read_eq_ok {v : Json} {d : Duration} : read v = .ok d ↔ d.Written v :=
  TaggedUnion.field_eq_ok.trans decode_eq_ok

theorem Written.fits {d : Duration} {v : Json} (h : d.Written v) : d.fits := by
  cases h with
  | height blocks hfits => exact hfits
  | time seconds hfits => exact hfits

theorem written_toWire {d : Duration} (h : d.fits) : d.Written d.toWire := by
  cases d with
  | height blocks => exact .height blocks h
  | time seconds => exact .time seconds h

theorem isPlain_toWire {d : Duration} (h : d.fits) : d.toWire.IsPlain := by
  cases d with
  | height blocks => exact Json.isPlain_singleton (isPlain_int (by decide) h)
  | time seconds => exact Json.isPlain_singleton (isPlain_int (by decide) h)

theorem isJoined_toWire (d : Duration) : d.toWire.IsJoined := by
  cases d with
  | height blocks => exact ⟨by decide, trivial, trivial⟩
  | time seconds => exact ⟨by decide, trivial, trivial⟩

end Duration

/-! ## Lockups -/

namespace Lockup

/-- The members of an object that writes a lockup, in any order. -/
structure Written (l : Lockup) (m : Members) : Prop where
  keys : ∀ k ∈ Members.keys m, k ∈ fieldNames
  id : m.get? "id" = some (.int l.id)
  owner : m.get? "owner" = some (.text l.owner)
  amount : ∃ v, m.get? "base_token_amount" = some v ∧ WideWritten l.baseTokenAmount v
  releaseAt : ∃ v, m.get? "release_at" = some v ∧ l.releaseAt.Written v
  fits : l.fits

theorem read_eq_ok {origin : Origin} {v : Json} {l : Lockup} :
    read origin v = .ok l ↔ ∃ m, v = .object m ∧ l.Written m := by
  unfold read
  rw [Reader.record_eq_ok]
  apply exists_congr
  intro m
  constructor
  · rintro ⟨rfl, hkeys, h⟩
    unfold fields at h
    simp only [Except.map_eq_ok, Checked.both_eq_ok, Reader.field_eq_ok, Reader.word_eq_ok,
      Reader.text_eq_ok, Reader.wide_eq_ok, Expiration.read_eq_ok] at h
    obtain ⟨⟨id, owner, amount, release⟩, ⟨⟨_, hid, rfl, hidFits⟩, ⟨_, howner, rfl⟩,
      ⟨w, hamount, hamountWritten, hamountFits⟩, ⟨e, hrelease, hreleaseWritten⟩⟩, rfl⟩ := h
    refine ⟨rfl, hkeys, hid, howner, ⟨w, hamount, hamountWritten⟩,
      ⟨e, hrelease, hreleaseWritten⟩, ?_⟩
    exact ⟨hidFits, hamountFits, hreleaseWritten.fits⟩
  · rintro ⟨rfl, h⟩
    obtain ⟨w, hamount, hamountWritten⟩ := h.amount
    obtain ⟨e, hrelease, hreleaseWritten⟩ := h.releaseAt
    refine ⟨rfl, h.keys, ?_⟩
    unfold fields
    simp only [Except.map_eq_ok, Checked.both_eq_ok, Reader.field_eq_ok, Reader.word_eq_ok,
      Reader.text_eq_ok, Reader.wide_eq_ok, Expiration.read_eq_ok]
    exact ⟨⟨l.id, l.owner, l.baseTokenAmount, l.releaseAt⟩, ⟨⟨_, h.id, rfl, h.fits.1⟩,
      ⟨_, h.owner, rfl⟩, ⟨w, hamount, hamountWritten, h.fits.2.1⟩,
      ⟨e, hrelease, hreleaseWritten⟩⟩, rfl⟩

/-- The members of the normal form. -/
def toMembers (l : Lockup) : Members :=
  [("id", .int l.id), ("owner", .text l.owner), ("base_token_amount", numeral l.baseTokenAmount),
    ("release_at", l.releaseAt.toWire)]

theorem keys_toMembers (l : Lockup) : Members.keys l.toMembers = fieldNames := rfl

theorem nodup_fieldNames : fieldNames.Nodup := by decide

theorem isWellFormed_of_mem_fieldNames : ∀ k ∈ fieldNames, Text.isWellFormed k = true := by
  have hall : fieldNames.all Text.isWellFormed = true := by decide
  exact List.all_eq_true.mp hall

theorem written_toMembers {l : Lockup} (h : l.fits) : l.Written l.toMembers := by
  refine ⟨?_, rfl, rfl, ⟨_, rfl, .decimal (by decide) h.2.1⟩,
    ⟨_, rfl, Expiration.written_toWire h.2.2⟩, h⟩
  intro k hk
  rw [keys_toMembers] at hk
  exact hk

theorem isPlain_toJson {l : Lockup} (h : l.fits) : l.toJson.IsPlain := by
  refine ⟨?_, isPlain_int (by decide) h.1, trivial, isPlain_numeral _,
    Expiration.isPlain_toWire h.2.2, trivial⟩
  exact nodup_fieldNames

theorem isJoined_of_written_joined {l : Lockup} {m : Members} (h : l.Written m)
    (hm : l.toJson.joined = .object m) : l.toJson.IsJoined := by
  have hjoined : l.toJson.joined = .object (l.toMembers.map fun p => (p.1, p.2.joined)) :=
    Json.joined_object isWellFormed_of_mem_fieldNames nodup_fieldNames
  rw [hjoined, Json.object.injEq] at hm
  have howner := h.owner
  rw [← hm, Members.get?_map] at howner
  have htext : (Json.text l.owner).joined = .text l.owner := by
    injection howner
  exact ⟨by decide, trivial, by decide, Json.isJoined_of_joined_text htext, by decide,
    isJoined_numeral _, by decide, Expiration.isJoined_toWire _, trivial⟩

end Lockup

end ShareVault
