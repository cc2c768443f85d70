import ShareVault.Shape
import ShareVault.Proofs.Wire.Written

/-! # Values of declared types and how they are written

    The types that fields of messages are declared with: numbers, texts, booleans,
    tokens, expirations, durations and lockups, optional or in lists. `Holds`
    says which values such a type has, and `Written` by which JSON values each of
    them may be written.

    Main statements:
    - `load_eq_ok`: exactly what is written so is loaded as the value;
    - `written_dump`: the dumped form of a value is one of the ways;
    - `isJoined_of_written_joined`: a dumped form that survives the joining of
      surrogates has none to join.
-/

namespace ShareVault.Shape

/-- A type whose values are told apart, with numbers that have few enough digits
    to be converted. -/
def isTyped : Shape → Bool
  | .wide bits => bits < Json.maxDigits
  | .word bits => bits < Json.maxDigits
  | .text => true
  | .boolean => true
  | .token => true
  | .expiration => true
  | .duration => true
  | .lockup => true
  | .optional s => isTyped s
  | .list s => isTyped s
  | .any => false
  | .vaultInfo => false
  | .standardInfo => false
  | .empty => false

/-- The values of a type. -/
inductive Holds : Shape → Value → Prop where
  | wide {bits n : Nat} (hfits : n < twoTo bits) : Holds (.wide bits) (.int n)
  | word {bits n : Nat} (hfits : n < twoTo bits) : Holds (.word bits) (.int n)
  | text (t : Text) : Holds .text (.text t)
  | boolean (b : Bool) : Holds .boolean (.bool b)
  | token (t : Token) : Holds .token (.token t)
  | expiration {e : Expiration} (hfits : e.fits) : Holds .expiration (.expiration e)
  | duration {d : Duration} (hfits : d.fits) : Holds .duration (.duration d)
  | lockup {l : Lockup} (hfits : l.fits) : Holds .lockup (.lockup l)
  | null {s : Shape} : Holds (.optional s) .null
  | some {s : Shape} {x : Value} (h : Holds s x) : Holds (.optional s) x
  | nil {s : Shape} : Holds (.list s) (.list [])
  | cons {s : Shape} {x : Value} {xs : List Value} (h : Holds s x)
      (hrest : Holds (.list s) (.list xs)) : Holds (.list s) (.list (x :: xs))

/-- The JSON values that write a value of a type. -/
inductive Written : Shape → Value → Json → Prop where
  | wide {bits n : Nat} {v : Json} (hwritten : WideWritten n v) (hfits : n < twoTo bits) :
    Written (.wide bits) (.int n) v
  | word {bits n : Nat} (hfits : n < twoTo bits) : Written (.word bits) (.int n) (.int n)
  | text (t : Text) : Written .text (.text t) (.text t)
  | boolean {b : Bool} {v : Json} (hmeans : Reader.boolean v = .ok b) :
    Written .boolean (.bool b) v
  | token {t : Token} {v : Json} (hwritten : t.Written v) : Written .token (.token t) v
  | expiration {e : Expiration} {v : Json} (hwritten : e.Written v) :
    Written .expiration (.expiration e) v
  | duration {d : Duration} {v : Json} (hwritten : d.Written v) :
    Written .duration (.duration d) v
  | lockup {l : Lockup} {m : Members} (hwritten : l.Written m) :
    Written .lockup (.lockup l) (.object m)
  | null {s : Shape} : Written (.optional s) .null .null
  | some {s : Shape} {x : Value} {v : Json} (hnull : v ≠ .null) (h : Written s x v) :
    Written (.optional s) x v
  | nil {s : Shape} : Written (.list s) (.list []) (.array [])
  | cons {s : Shape} {x : Value} {v : Json} {xs : List Value} {vs : List Json}
      (h : Written s x v) (hrest : Written (.list s) (.list xs) (.array vs)) :
    Written (.list s) (.list (x :: xs)) (.array (v :: vs))

/-! ## Loading -/

theorem Written.load {origin : Origin} {s : Shape} {x : Value} {v : Json} (h : s.Written x v) :
    s.load origin v = .ok x := by
  induction h with
  | wide hwritten hfits =>
    exact Except.map_eq_ok.mpr ⟨_, Reader.wide_eq_ok.mpr ⟨hwritten, hfits⟩, rfl⟩
  | word hfits => exact Except.map_eq_ok.mpr ⟨_, Reader.word_eq_ok.mpr ⟨rfl, hfits⟩, rfl⟩
  | text t => rfl
  | boolean hmeans => exact Except.map_eq_ok.mpr ⟨_, hmeans, rfl⟩
  | token hwritten => exact Except.map_eq_ok.mpr ⟨_, Token.read_eq_ok.mpr hwritten, rfl⟩
  | expiration hwritten =>
    exact Except.map_eq_ok.mpr ⟨_, Expiration.read_eq_ok.mpr hwritten, rfl⟩
  | duration hwritten => exact Except.map_eq_ok.mpr ⟨_, Duration.read_eq_ok.mpr hwritten, rfl⟩
  | lockup hwritten =>
    exact Except.map_eq_ok.mpr ⟨_, Lockup.read_eq_ok.mpr ⟨_, rfl, hwritten⟩, rfl⟩
  | null => rfl
  | some hnull _ ih =>
    unfold Shape.load
    rw [Reader.optional_of_ne_null hnull, ih]
    rfl
  | nil => rfl
  | cons _ _ ih ihRest =>
    obtain ⟨xs, hxs, heq⟩ := Except.map_eq_ok.mp ihRest
    injection heq with heq
    subst heq
    obtain ⟨vs, hvs, hall⟩ := Reader.items_eq_ok.mp hxs
    injection hvs with hvs
    subst hvs
    exact Except.map_eq_ok.mpr ⟨_, Reader.items_eq_ok.mpr ⟨_, rfl, .cons ih hall⟩, rfl⟩

theorem written_of_load {origin : Origin} {s : Shape} (hs : s.isTyped = true) {v : Json}
    {x : Value} (h : s.load origin v = .ok x) : s.Written x v := by
  induction s generalizing v x with
  | wide bits =>
    obtain ⟨n, hn, rfl⟩ := Except.map_eq_ok.mp h
    obtain ⟨hwritten, hfits⟩ := Reader.wide_eq_ok.mp hn
    exact .wide hwritten hfits
  | word bits =>
    obtain ⟨n, hn, rfl⟩ := Except.map_eq_ok.mp h
    obtain ⟨rfl, hfits⟩ := Reader.word_eq_ok.mp hn
    exact .word hfits
  | text =>
    obtain ⟨t, ht, rfl⟩ := Except.map_eq_ok.mp h
    obtain rfl := Reader.text_eq_ok.mp ht
    exact .text t
  | boolean =>
    obtain ⟨b, hmeans, rfl⟩ := Except.map_eq_ok.mp h
    exact .boolean hmeans
  | token =>
    obtain ⟨t, ht, rfl⟩ := Except.map_eq_ok.mp h
    exact .token (Token.read_eq_ok.mp ht)
  | expiration =>
    obtain ⟨e, he, rfl⟩ := Except.map_eq_ok.mp h
    exact .expiration (Expiration.read_eq_ok.mp he)
  | duration =>
    obtain ⟨d, hd, rfl⟩ := Except.map_eq_ok.mp h
    exact .duration (Duration.read_eq_ok.mp hd)
  | lockup =>
    obtain ⟨l, hl, rfl⟩ := Except.map_eq_ok.mp h
    obtain ⟨m, rfl, hwritten⟩ := Lockup.read_eq_ok.mp hl
    exact .lockup hwritten
  | optional s ih =>
    obtain ⟨o, ho, rfl⟩ := Except.map_eq_ok.mp h
    rcases Reader.optional_eq_ok.mp ho with ⟨rfl, rfl⟩ | ⟨hnull, y, hy, rfl⟩
    · exact .null
    · exact .some hnull (ih hs hy)
  | list s ih =>
    obtain ⟨xs, hxs, rfl⟩ := Except.map_eq_ok.mp h
    obtain ⟨vs, rfl, hall⟩ := Reader.items_eq_ok.mp hxs
    clear h hxs
    induction hall with
    | nil => exact .nil
    | cons hy _ ihRest => exact .cons (ih hs hy) ihRest
  | any => cases hs
  | vaultInfo => cases hs
  | standardInfo => cases hs
  | empty => cases hs

/-- Exactly what is written so is loaded as the value. -/
theorem load_eq_ok {origin : Origin} {s : Shape} (hs : s.isTyped = true) {v : Json} {x : Value} :
    s.load origin v = .ok x ↔ s.Written x v :=
  ⟨written_of_load hs, Written.load⟩

theorem Written.holds {s : Shape} {x : Value} {v : Json} (h : s.Written x v) : s.Holds x := by
  induction h with
  | wide _ hfits => exact .wide hfits
  | word hfits => exact .word hfits
  | text t => exact .text t
  | boolean _ => exact .boolean _
  | token _ => exact .token _
  | expiration hwritten => exact .expiration hwritten.fits
  | duration hwritten => exact .duration hwritten.fits
  | lockup hwritten => exact .lockup hwritten.fits
  | null => exact .null
  | some _ _ ih => exact .some ih
  | nil => exact .nil
  | cons _ _ ih ihRest => exact .cons ih ihRest

/-! ## Dumping -/

theorem dump_optional (s : Shape) (x : Value) :
    (optional s).dump x = if x.isNull then .null else s.dump x := rfl

theorem dump_list (s : Shape) (xs : List Value) :
    (list s).dump (.list xs) = .array (xs.map s.dump) := rfl

theorem Holds.eq_null {s : Shape} {x : Value} (h : s.Holds x) (hx : x.isNull = true) :
    x = .null := by
  induction h with
  | null => rfl
  | some h ih => exact ih hx
  | _ => cases hx

/-- Null is a value of an optional type only, so nothing else is dumped to it. -/
theorem dump_ne_null {s : Shape} {x : Value} (h : s.Holds x) (hx : x.isNull = false) :
    s.dump x ≠ .null := by
  induction h with
  | wide hfits => simp [dump]
  | word hfits => simp [dump, Value.toJson]
  | text t => simp [dump, Value.toJson]
  | boolean b => simp [dump, Value.toJson]
  | token t => cases t <;> simp [dump, Value.toJson, Token.toWire]
  | @expiration e hfits => cases e <;> simp [dump, Value.toJson, Expiration.toWire]
  | @duration d hfits => cases d <;> simp [dump, Value.toJson, Duration.toWire]
  | lockup hfits => simp [dump, Value.toJson, Lockup.toJson]
  | null => cases hx
  | some h ih =>
    rw [dump_optional, hx]
    exact ih hx
  | nil => simp [dump]
  | cons h hrest ih ihRest => simp [dump]

theorem written_dump {s : Shape} {x : Value} (hs : s.isTyped = true) (h : s.Holds x) :
    s.Written x (s.dump x) := by
  induction h with
  | wide hfits => exact .wide (.decimal (of_decide_eq_true hs) hfits) hfits
  | word hfits => exact .word hfits
  | text t => exact .text t
  | boolean b => exact .boolean rfl
  | token t => exact .token (Token.written_toWire t)
  | expiration hfits => exact .expiration (Expiration.written_toWire hfits)
  | duration hfits => exact .duration (Duration.written_toWire hfits)
  | lockup hfits => exact .lockup (Lockup.written_toMembers hfits)
  | null => exact .null
  | @some s x h ih =>
    rw [dump_optional]
    -- Null is dumped by the option itself, whatever type is inside.
    cases hx : x.isNull with
    | true =>
      rw [if_pos rfl]
      rw [h.eq_null hx]
      exact .null
    | false => exact .some (dump_ne_null h hx) (ih hs)
  | nil => exact .nil
  | cons h hrest ih ihRest => exact .cons (ih hs) (ihRest hs)

theorem isPlain_dump {s : Shape} {x : Value} (hs : s.isTyped = true) (h : s.Holds x) :
    (s.dump x).IsPlain := by
  induction h with
  | wide hfits => exact isPlain_numeral _
  | word hfits => exact isPlain_int (of_decide_eq_true hs) hfits
  | text t => trivial
  | boolean b => trivial
  | token t => exact Token.isPlain_toWire t
  | expiration hfits => exact Expiration.isPlain_toWire hfits
  | duration hfits => exact Duration.isPlain_toWire hfits
  | lockup hfits => exact Lockup.isPlain_toJson hfits
  | null => trivial
  | @some s x h ih =>
    rw [dump_optional]
    split
    · trivial
    · exact ih hs
  | nil => trivial
  | cons h hrest ih ihRest => exact ⟨ih hs, ihRest hs⟩

/-- A value of a type can always be written. -/
theorem fault?_eq_none {s : Shape} {x : Value} (h : s.Holds x) : s.fault? x = none := by
  induction h with
  | @some s x h ih =>
    unfold fault?
    split
    · rfl
    · exact ih
  | cons h hrest ih ihRest =>
    unfold fault? at ihRest ⊢
    rw [List.findSome?_cons, ih]
    exact ihRest
  | _ => rfl

/-! ## Joining surrogates -/

theorem isJoined_of_written_joined {s : Shape} {x : Value} (h : s.Holds x)
    (hw : s.Written x (s.dump x).joined) : (s.dump x).IsJoined := by
  induction h with
  | wide hfits => exact isJoined_numeral _
  | word hfits => trivial
  | text t =>
    generalize hv : (text.dump (.text t)).joined = v at hw
    cases hw with
    | text => exact Json.isJoined_of_joined_text hv
  | boolean b => trivial
  | token t =>
    cases hw with
    | token hwritten => exact Token.isJoined_of_written_joined hwritten
  | expiration hfits => exact Expiration.isJoined_toWire _
  | duration hfits => exact Duration.isJoined_toWire _
  | @lockup l hfits =>
    generalize hv : (lockup.dump (.lockup l)).joined = v at hw
    cases hw with
    | lockup hwritten => exact Lockup.isJoined_of_written_joined hwritten hv
  | null => trivial
  | @some s x h ih =>
    rw [dump_optional] at hw ⊢
    split
    · trivial
    -- What is not null is written by the type inside.
    · next hx =>
      rw [if_neg hx] at hw
      generalize hv : (s.dump x).joined = v at hw ih
      cases hw with
      | null => exact absurd rfl hx
      | some _ hwritten => exact ih hwritten
  | nil => trivial
  | @cons s x xs h hrest ih ihRest =>
    have htail : ((list s).dump (.list xs)).joined = .array ((xs.map s.dump).map Json.joined) := by
      rw [dump_list, Json.joined_array]
    rw [dump_list, Json.joined_array, List.map_cons, List.map_cons] at hw
    cases hw with
    | cons hhead hrest =>
      rw [← htail] at hrest
      exact ⟨ih hhead, ihRest hrest⟩

end ShareVault.Shape
