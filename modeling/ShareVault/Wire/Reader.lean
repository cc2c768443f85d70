import ShareVault.Wire.Report

/-! # Reading declared values

    A reader checks a JSON value against a declared type. It gives either the
    value or all the issues: the issues of a record are those of its fields, in
    the order of declaration, followed by one for each key that is no field.

    ## Readers
    - `word`, `wide`: unsigned integers, the wide ones also as decimal numerals;
    - `text`, `boolean`;
    - `optional`, `items`: what may be null, and sequences;
    - `record`, `field`, `fieldOr`: records.

    Main statements:
    - `both_eq_ok`: two readings succeed together exactly if each one does.
-/

namespace ShareVault

/-- A value, or the issues that prevent it. -/
abbrev Checked (α : Type) := Except (List Issue) α

namespace Checked

/-- A single issue with the value as a whole. -/
def fail {α : Type} (p : Problem) : Checked α := .error [Issue.here p]

/-- The same, as seen from one step above. -/
def under {α : Type} (s : Step) : Checked α → Checked α
  | .ok a => .ok a
  | .error issues => .error (issues.map (Issue.under s))

/-- Two values, or the issues of both. -/
def both {α β : Type} : Checked α → Checked β → Checked (α × β)
  | .ok a, .ok b => .ok (a, b)
  | .ok _, .error f => .error f
  | .error e, .ok _ => .error e
  | .error e, .error f => .error (e ++ f)

theorem both_eq_ok {α β : Type} {x : Checked α} {y : Checked β} {p : α × β} :
    both x y = .ok p ↔ x = .ok p.1 ∧ y = .ok p.2 := by
  obtain ⟨a, b⟩ := p
  cases x <;> cases y <;> simp [both]

theorem under_eq_ok {α : Type} {s : Step} {x : Checked α} {a : α} :
    under s x = .ok a ↔ x = .ok a := by
  cases x <;> simp [under]

end Checked

namespace Reader

/-! ## Integers -/

/-- A number that is unsigned and fits into `bits` bits. -/
def inRange (bits : Nat) (n : Int) : Checked Nat :=
  if 0 ≤ n ∧ n < twoTo bits then .ok n.toNat else Checked.fail (.outOfRange n bits)

/-- An unsigned integer. -/
def word (bits : Nat) : Json → Checked Nat
  | .int n => inRange bits n
  | _ => Checked.fail .notInteger

/-- An unsigned integer, also as a decimal numeral, which keeps its digits on
    every way. -/
def wide (bits : Nat) : Json → Checked Nat
  | .int n => inRange bits n
  | .bool _ => Checked.fail .booleanNumeral
  | .text t =>
    if t.isDigits then
      if Json.maxDigits < t.length then Checked.fail (.numeralTooLong t.length)
      else inRange bits (t.digitsValue : Nat)
    else Checked.fail (.notNumeral t)
  | _ => Checked.fail .notInteger

/-! ## Texts and booleans -/

/-- A text, well-formed or not. -/
def text : Json → Checked Text
  | .text t => .ok t
  | _ => Checked.fail .notText

/-- The words that mean false. -/
def falseWords : List Text := ["0", "f", "n", "no", "off", "false"]

/-- The words that mean true. -/
def trueWords : List Text := ["1", "t", "y", "yes", "on", "true"]

/-- The boolean that a word means. -/
def booleanWord (t : Text) : Checked Bool :=
  let w := t.foldAscii
  if falseWords.contains w then .ok false
  else if trueWords.contains w then .ok true
  else Checked.fail (if t.isWellFormed then .unclearBoolean else .notUnicode)

/-- The boolean that a number means. -/
def booleanNumber (n : Int) : Checked Bool :=
  if n = 0 then .ok false
  else if n = 1 then .ok true
  else Checked.fail (if isSignedWord n then .unclearBoolean else .notBoolean)

/-- A boolean, or a word or a number that means one. -/
def boolean : Json → Checked Bool
  | .bool b => .ok b
  | .text t => booleanWord t
  | .int n => booleanNumber n
  | .float x =>
    match x.toInt? with
    | some n => if isSignedWord (-n) then booleanNumber n else Checked.fail .notBoolean
    | none => Checked.fail .notBoolean
  | _ => Checked.fail .notBoolean

/-! ## Options and sequences -/

/-- Null, or what `read` reads. -/
def optional {α : Type} (read : Json → Checked α) : Json → Checked (Option α)
  | .null => .ok none
  | v => some <$> read v

/-- The items of an array, counted from `n`. -/
def itemsFrom {α : Type} (read : Json → Checked α) (n : Nat) : List Json → Checked (List α)
  | [] => .ok []
  | v :: rest =>
    (fun p => p.1 :: p.2) <$>
      Checked.both (Checked.under (.index n) (read v)) (itemsFrom read (n + 1) rest)

/-- A list. -/
def items {α : Type} (read : Json → Checked α) : Json → Checked (List α)
  | .array vs => itemsFrom read 0 vs
  | _ => Checked.fail .notList

/-- A tuple of any length. -/
def tuple {α : Type} (origin : Origin) (read : Json → Checked α) : Json → Checked (List α)
  | .array vs => itemsFrom read 0 vs
  | _ => Checked.fail (.notTuple origin)

/-! ## Records -/

/-- The value of a required field. -/
def field {α : Type} (m : Members) (name : Text) (read : Json → Checked α) : Checked α :=
  Checked.under (.key name) <|
    match m.get? name with
    | some v => read v
    | none => Checked.fail .missing

/-- The value of a field with a default. -/
def fieldOr {α : Type} (m : Members) (name : Text) (default : α) (read : Json → Checked α) :
    Checked α :=
  match m.get? name with
  | some v => Checked.under (.key name) (read v)
  | none => .ok default

/-- The issues of the keys that are no fields. -/
def extras (names : List Text) (m : Members) : List Issue :=
  (m.keys.filter fun k => !names.contains k).map fun k => .mk [.key k] .extra

/-- A reading of fields, which must be all that there is. A key that is no
    field has to be well-formed to be named in a report. -/
def closed {α : Type} (names : List Text) (m : Members) (fields : Checked α) : Checked α :=
  if (m.keys.filter fun k => !names.contains k).all Text.isWellFormed then
    -- The issues of declared fields come before those of other keys.
    match fields, extras names m with
    | .ok a, [] => .ok a
    | .ok _, issues => .error issues
    | .error before, issues => .error (before ++ issues)
  else Checked.fail .notUnicode

/-- A record of a name with exactly the fields `names`. -/
def record {α : Type} (origin : Origin) (name : Text) (names : List Text)
    (fields : Members → Checked α) : Json → Checked α
  | .object m => closed names m (fields m)
  | _ => Checked.fail (.notRecord name origin)

end Reader

end ShareVault
