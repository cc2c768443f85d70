import ShareVault.Info
import ShareVault.Lockup
import ShareVault.Json.Strict
import ShareVault.Json.Printer

/-! # Declared types and their values

    The types that fields and responses are declared with, and the values they
    have. A value is loaded from JSON by its shape and dumped to JSON by it; wide
    integers are dumped as decimal numerals, all else as it is.

    The default of a field is not loaded: it stands for the value as the JSON that
    it is, whatever the shape. Not all of it can be written then.

    ## Operations
    - `Shape.load`, `Shape.dump`: from and to JSON;
    - `Shape.fault?`: what prevents the writing of a field of a message;
    - `Shape.dumpText?`: the text of a response, unless it cannot be written;
    - `Value.toJson`: the JSON value of a value whose shape does not matter;
    - `Value.kindName`, `Value.inspect`: how reports name and show a value.
-/

namespace ShareVault

/-- A declared type. -/
inductive Shape where
  /-- An unsigned integer of so many bits, written as a decimal numeral. -/
  | wide (bits : Nat)
  /-- An unsigned integer of so many bits. -/
  | word (bits : Nat)
  | text
  | boolean
  /-- Any JSON value. -/
  | any
  | token
  | expiration
  | duration
  | lockup
  | vaultInfo
  | standardInfo
  /-- A record without fields. -/
  | empty
  /-- Null, or a value of the shape. -/
  | optional (s : Shape)
  | list (s : Shape)
deriving DecidableEq, Repr

/-- A value of a declared type. -/
inductive Value where
  | null
  | bool (b : Bool)
  | int (n : Int)
  | text (t : Text)
  | json (v : Json)
  | token (t : Token)
  | expiration (e : Expiration)
  | duration (d : Duration)
  | lockup (l : Lockup)
  | vaultInfo (i : VaultInfo)
  | standardInfo (i : StandardInfo)
  | empty
  | list (vs : List Value)

namespace Value

/-! ## Values in reports -/

/-- The word for what a value is. -/
def kindName : Value → Text
  | .null => "NoneType"
  | .bool _ => "bool"
  | .int _ => "int"
  | .text _ => "str"
  | .json v => v.kind.word
  | .token t => t.kindName
  | .expiration e => e.kindName
  | .duration d => d.kindName
  | .lockup _ => "Lockup"
  | .vaultInfo _ => "VaultInfo"
  | .standardInfo _ => "VaultStandardInfo"
  | .empty => "Empty"
  | .list _ => "list"

mutual

/-- A value as a report shows it. -/
def inspect : Value → Text
  | .null => "None"
  | .bool b => (Json.bool b).inspect
  | .int n => Text.ofInt n
  | .text t => t.quoted
  | .json v => v.inspect
  | .token t => t.inspect
  | .expiration e => e.inspect
  | .duration d => d.inspect
  | .lockup l => l.inspect
  | .vaultInfo i => i.inspect
  | .standardInfo i => i.inspect
  | .empty => Text.record "Empty" []
  | .list vs => CodePoint.ofChar '[' :: inspectItems vs

/-- The items of a list, and the closing bracket. -/
def inspectItems : List Value → Text
  | [] => "]"
  | [v] => v.inspect ++ "]"
  | v :: rest => v.inspect ++ ", " ++ inspectItems rest

end

/-- A value within a sentence: as `inspect` shows it, but a text alone stands
    without quotes. -/
def display : Value → Text
  | .text t => t
  | .json v => v.display
  | v => v.inspect

/-- Null, loaded or not. -/
def isNull : Value → Bool
  | .null => true
  | .json .null => true
  | _ => false

/-! ## The JSON value of a value -/

mutual

/-- A value in JSON, its integers as integers. -/
def toJson : Value → Json
  | .null => .null
  | .bool b => .bool b
  | .int n => .int n
  | .text t => .text t
  | .json v => v
  | .token t => t.toWire
  | .expiration e => e.toWire
  | .duration d => d.toWire
  | .lockup l => l.toJson
  | .vaultInfo i => i.toJson
  | .standardInfo i => i.toJson
  | .empty => .object []
  | .list vs => .array (itemsToJson vs)

/-- The items of a list in JSON. -/
def itemsToJson : List Value → List Json
  | [] => []
  | v :: rest => v.toJson :: itemsToJson rest

end

end Value

namespace Shape

/-- The value of the shape that a JSON value writes. Records inside come from
    `origin`. -/
def load (origin : Origin) : Shape → Json → Checked Value
  | .wide bits, v => (fun n => .int (Int.ofNat n)) <$> Reader.wide bits v
  | .word bits, v => (fun n => .int (Int.ofNat n)) <$> Reader.word bits v
  | .text, v => .text <$> Reader.text v
  | .boolean, v => .bool <$> Reader.boolean v
  | .any, v => .ok (.json v)
  | .token, v => .token <$> Token.read v
  | .expiration, v => .expiration <$> Expiration.read v
  | .duration, v => .duration <$> Duration.read v
  | .lockup, v => .lockup <$> Lockup.read origin v
  | .vaultInfo, v => .vaultInfo <$> VaultInfo.read origin v
  | .standardInfo, v => .standardInfo <$> StandardInfo.read origin v
  | .empty, v => (fun _ => .empty) <$> Reader.record origin "Empty" [] (fun _ => .ok ()) v
  | .optional s, v => (fun o => o.getD .null) <$> Reader.optional (load origin s) v
  | .list s, v => .list <$> Reader.items (load origin s) v

/-- The value that a strict JSON text writes. -/
def loadText (s : Shape) (text : Option Json) : Checked Value :=
  match text with
  | some v => s.load .text v
  | none => Checked.fail .notJson

/-- A value in JSON, by its shape. A wide integer is written as what is displayed
    of it. Among the words, a boolean counts as a number. What else is not of the
    shape is written as it is. -/
def dump : Shape → Value → Json
  | .wide _, v => .text v.display
  | .word _, .json (.bool b) => .int (if b then 1 else 0)
  | .optional s, v => if v.isNull then .null else dump s v
  | .list s, .list vs => .array (vs.map (dump s))
  | .list s, .json (.array vs) => .array (vs.map fun v => dump s (.json v))
  | _, v => v.toJson

/-! ## What cannot be written -/

/-- The first fault of a field in a message. A value that stands for a member of a
    union has to be one. -/
def fault? : Shape → Value → Option WriteFault
  | .wide _, _ => none
  | .optional s, v => if v.isNull then none else fault? s v
  | .list s, .list vs => vs.findSome? (fault? s)
  | .list s, .json (.array vs) => vs.findSome? fun v => fault? s (.json v)
  | .token, .json _ => some .untyped
  | .expiration, .json _ => some .untyped
  | .duration, .json _ => some .untyped
  | _, .json v => v.fault? Json.maxLevels
  | _, _ => none

/-- Whether the parts of a value that may be anything are not nested too deep. -/
def isShallow : Shape → Value → Bool
  | .any, v => v.toJson.depth < Json.maxLevels
  | .optional s, v => v.isNull || isShallow s v
  | .list s, .list vs => vs.all (isShallow s)
  | _, _ => true

/-- The text of a value, unless it is nested too deep or holds a surrogate. -/
def dumpText? (s : Shape) (v : Value) : Option Text :=
  if s.isShallow v then (s.dump v).valueText? else none

end Shape

end ShareVault
