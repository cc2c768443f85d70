import ShareVault.Text.Digits
import ShareVault.Number.Binary64

/-! # JSON values

    Values of JSON, with integers kept apart from other numbers, as amounts
    must not lose digits. An object keeps its members in order; its keys are
    distinct, for `Members.set` replaces the value of a key that is there.

    Main statements:
    - `Members.get?_set_self`, `Members.get?_set_ne`: look-up after setting a key;
    - `Members.keys_set_of_mem`, `Members.keys_set_of_not_mem`: a known key stays
      in place, and a new one goes to the end.
-/

namespace ShareVault

/-- A JSON value. -/
inductive Json where
  | null
  | bool (b : Bool)
  | int (n : Int)
  | float (x : Binary64)
  | text (t : Text)
  | array (items : List Json)
  | object (members : List (Text × Json))

/-! ## Members of objects -/

/-- The members of an object, in order. -/
abbrev Members := List (Text × Json)

namespace Members

/-- The value of a key. -/
def get? (key : Text) : Members → Option Json
  | [] => none
  | (k, v) :: rest => if k = key then some v else get? key rest

/-- Gives a key a value: in its place when it is there, else at the end. -/
def set (key : Text) (value : Json) : Members → Members
  | [] => [(key, value)]
  | (k, v) :: rest => if k = key then (k, value) :: rest else (k, v) :: set key value rest

/-- The keys in order. -/
def keys (m : Members) : List Text := m.map Prod.fst

@[simp] theorem get?_set_self (key : Text) (value : Json) (m : Members) :
    get? key (set key value m) = some value := by
  induction m with
  | nil => simp [set, get?]
  | cons p m ih =>
    obtain ⟨k, v⟩ := p
    by_cases h : k = key <;> simp [set, get?, h, ih]

theorem get?_set_ne {key other : Text} (h : other ≠ key) (value : Json) (m : Members) :
    get? other (set key value m) = get? other m := by
  induction m with
  | nil => simp [set, get?, Ne.symm h]
  | cons p m ih =>
    obtain ⟨k, v⟩ := p
    by_cases hk : k = key
    · subst hk
      simp [set, get?, Ne.symm h]
    · simp [set, get?, hk, ih]

theorem keys_set_of_mem {key : Text} {m : Members} (h : key ∈ keys m) (value : Json) :
    keys (set key value m) = keys m := by
  induction m with
  | nil => simp [keys] at h
  | cons p m ih =>
    obtain ⟨k, v⟩ := p
    by_cases hk : k = key
    · simp [set, keys, hk]
    · have hm : key ∈ keys m := by
        simp only [keys, List.map_cons, List.mem_cons, Ne.symm hk, false_or] at h
        exact h
      simp only [set, hk, if_false, keys, List.map_cons] at ih ⊢
      rw [ih hm]

theorem keys_set_of_not_mem {key : Text} {m : Members} (h : key ∉ keys m) (value : Json) :
    keys (set key value m) = keys m ++ [key] := by
  induction m with
  | nil => rfl
  | cons p m ih =>
    obtain ⟨k, v⟩ := p
    simp only [keys, List.map_cons, List.mem_cons, not_or] at h
    simp only [set, Ne.symm h.1, if_false, keys, List.map_cons, List.cons_append] at ih ⊢
    rw [ih h.2]

end Members

/-! ## Kinds -/

namespace Json

/-- What a value is, regardless of its content. -/
inductive Kind where
  | null
  | bool
  | int
  | float
  | text
  | array
  | object
deriving DecidableEq, Repr

/-- The word of a kind in reports. -/
def Kind.word : Kind → Text
  | .null => "NoneType"
  | .bool => "bool"
  | .int => "int"
  | .float => "float"
  | .text => "str"
  | .array => "list"
  | .object => "dict"

/-- The kind of a value. -/
def kind : Json → Kind
  | .null => .null
  | .bool _ => .bool
  | .int _ => .int
  | .float _ => .float
  | .text _ => .text
  | .array _ => .array
  | .object _ => .object

/-- The members of an object. -/
def members? : Json → Option Members
  | .object m => some m
  | _ => none

/-- The value of a key of an object. -/
def get? (key : Text) : Json → Option Json
  | .object m => Members.get? key m
  | _ => none

/-- Null, false, zero, and whatever is empty. -/
def isEmptyOrZero : Json → Bool
  | .null => true
  | .bool b => !b
  | .int n => n == 0
  | .float x => x.isZero
  | .text t => t.isEmpty
  | .array items => items.isEmpty
  | .object members => members.isEmpty

/-! ## Nesting -/

mutual

/-- How deep arrays and objects are nested; an empty one counts for nothing. -/
def depth : Json → Nat
  | .array items => depthItems items
  | .object members => depthMembers members
  | _ => 0

/-- One more than the depth of the deepest item, if there is one. -/
def depthItems : List Json → Nat
  | [] => 0
  | v :: rest => max (v.depth + 1) (depthItems rest)

/-- One more than the depth of the deepest member, if there is one. -/
def depthMembers : List (Text × Json) → Nat
  | [] => 0
  | (_, v) :: rest => max (v.depth + 1) (depthMembers rest)

end

/-! ## Well-formedness -/

mutual

/-- No text in the value, keys included, holds a surrogate. -/
def isWellFormed : Json → Bool
  | .text t => t.isWellFormed
  | .array items => wellFormedItems items
  | .object members => wellFormedMembers members
  | _ => true

/-- Every item is well-formed. -/
def wellFormedItems : List Json → Bool
  | [] => true
  | v :: rest => v.isWellFormed && wellFormedItems rest

/-- Every member is well-formed. -/
def wellFormedMembers : List (Text × Json) → Bool
  | [] => true
  | (k, v) :: rest => Text.isWellFormed k && v.isWellFormed && wellFormedMembers rest

end

/-! ## Numbers that JSON cannot write -/

mutual

/-- NaN and the infinities replaced by null. -/
def withoutNonFinite : Json → Json
  | .float x => if x.isFinite then .float x else .null
  | .array items => .array (itemsWithoutNonFinite items)
  | .object members => .object (membersWithoutNonFinite members)
  | v => v

/-- Every item with NaN and the infinities replaced by null. -/
def itemsWithoutNonFinite : List Json → List Json
  | [] => []
  | v :: rest => v.withoutNonFinite :: itemsWithoutNonFinite rest

/-- Every member with NaN and the infinities replaced by null. -/
def membersWithoutNonFinite : List (Text × Json) → List (Text × Json)
  | [] => []
  | (k, v) :: rest => (k, v.withoutNonFinite) :: membersWithoutNonFinite rest

end

end Json

end ShareVault
