import ShareVault.Shape
import ShareVault.Text.SnakeCase
import ShareVault.Json.Printer

/-! # Messages

    A message is a variant of some union together with the values of its fields.
    The variants of the protocol and those of capabilities are declared alike:
    by a name, from which the tag follows, by fields, and, for queries, by the
    type of the response.

    Two more kinds of message wrap others: an extension carries the payload for
    a capability, and the payload names the capability around the message.

    ## Operations
    - `Variant.decoder`: a message from the payload of a variant;
    - `Message.toWire`, `Message.text`: the JSON of a message;
    - `Message.responseShape`: the type of the response to a query.
-/

namespace ShareVault

/-! ## Variants -/

/-- A field of a variant. -/
structure Field where
  name : Text
  shape : Shape
  /-- The value when the field is not there; without it the field is required. -/
  default : Option Value

/-- How a payload carries the fields. -/
inductive Layout where
  /-- An object with a key for each field. -/
  | struct (fields : List Field)
  /-- The value of the first field; the others are not carried and have their
      defaults. -/
  | newtype (field : Field) (others : List Field)

/-- The declaration of a variant. -/
structure Variant where
  /-- The name of the family that the variant belongs to, if it has one. -/
  family : Option Text
  name : Text
  layout : Layout
  /-- The type of the response, for a query. -/
  returns : Option Shape

/-- The two families of messages of a vault. -/
inductive Family where
  | execute
  | query
deriving DecidableEq, Repr

/-- The name of a family. -/
def Family.name : Family → Text
  | .execute => "ExecuteMsg"
  | .query => "QueryMsg"

namespace Variant

/-- The tag of a variant is its name in snake case. -/
def tag (v : Variant) : Text := v.name.snakeCase

/-- The fields in the order of declaration. -/
def fields (v : Variant) : List Field :=
  match v.layout with
  | .struct fields => fields
  | .newtype field others => field :: others

/-- The name of a variant with that of its family. -/
def fullName (v : Variant) : Text :=
  match v.family with
  | some f => f ++ "." ++ v.name
  | none => v.name

/-- The value of one field among the members of a payload. -/
def loadField (m : Members) (f : Field) : Checked Value :=
  match f.default with
  | some d => Reader.fieldOr m f.name d (f.shape.load .value)
  | none => Reader.field m f.name (f.shape.load .value)

/-- The values of all fields among the members of a payload. -/
def loadFields (m : Members) : List Field → Checked (List Value)
  | [] => .ok []
  | f :: rest =>
    (fun p => p.1 :: p.2) <$> Checked.both (loadField m f) (loadFields m rest)

/-- The members of a payload with the values of the fields. -/
def dumpFields : List Field → List Value → Members
  | f :: fields, v :: values => (f.name, f.shape.dump v) :: dumpFields fields values
  | _, _ => []

/-- The values of the fields that a payload writes. -/
def decodeValues (v : Variant) : Decoder (List Value) :=
  match v.layout with
  | .struct fields =>
    structPayload v.tag (fields.map Field.name) fun m => loadFields m fields
  | .newtype f others => fun j =>
    (loadFields [(f.name, j)] (f :: others)).mapError fun issues =>
      .malformed (.payload v.tag issues)

/-- The payload that writes the values of the fields. -/
def payload (v : Variant) (values : List Value) : Json :=
  match v.layout with
  | .struct fields => .object (dumpFields fields values)
  | .newtype f _ =>
    match values with
    | x :: _ => f.shape.dump x
    | [] => .null

/-- The first fault of the values of the fields, carried or not. -/
def fault? (v : Variant) (values : List Value) : Option WriteFault :=
  (v.fields.zip values).findSome? fun p => p.1.shape.fault? p.2

end Variant

/-! ## Messages -/

/-- A message. -/
inductive Message where
  | token (t : Token)
  | expiration (e : Expiration)
  | duration (d : Duration)
  /-- A variant with the values of its fields. -/
  | variant (v : Variant) (values : List Value)
  /-- The payload for a capability, as a message of a family. -/
  | extension (family : Family) (payload : Message)
  /-- A message of a capability. -/
  | capability (name : Text) (inner : Message)
  /-- A payload that nothing is known about. -/
  | untouched (v : Json)

namespace Message

/-- The tag of the messages that carry a payload for a capability. -/
def extensionTag : Text := "vault_extension"

/-- The JSON value of a message. Numbers that JSON cannot write are null within
    a declared payload. -/
def toWire : Message → Json
  | .token t => t.toWire
  | .expiration e => e.toWire
  | .duration d => d.toWire
  | .variant v values => .object [(v.tag, (v.payload values).withoutNonFinite)]
  | .extension _ payload => .object [(extensionTag, payload.toWire)]
  | .capability name inner => .object [(name, inner.toWire)]
  | .untouched v => v

/-- The first fault of the values in a message. -/
def fault? : Message → Option WriteFault
  | .variant v values => v.fault? values
  | .extension _ payload => payload.fault?
  | .capability _ inner => inner.fault?
  | _ => none

/-- The text of a message, unless one of its values cannot be written. -/
def text (m : Message) : Except WriteFault Text :=
  match m.fault? with
  | some f => .error f
  | none => .ok m.toWire.messageText

/-- The tag of a message, if its kind has one. -/
def tag? : Message → Option Text
  | .token (.native _) => some "native"
  | .token (.synthetic _) => some "synthetic"
  | .expiration e => some (Text.snakeCase e.kindName)
  | .duration d => some (Text.snakeCase d.kindName)
  | .variant v _ => some v.tag
  | .extension _ _ => some extensionTag
  | .capability _ _ => none
  | .untouched _ => none

/-- The name of the kind of a message. -/
def kindName : Message → Text
  | .token t => t.kindName
  | .expiration e => e.kindName
  | .duration d => d.kindName
  | .variant v _ => v.name
  | .extension _ _ => "VaultExtension"
  | .capability _ _ => "CapabilityMsg"
  | .untouched v => v.kind.word

/-- The name of the kind of a message, with its family. -/
def fullName : Message → Text
  | .variant v _ => v.fullName
  | .extension f _ => f.name ++ ".VaultExtension"
  | m => m.kindName

/-- A message as a report shows it. -/
def inspect : Message → Text
  | .token t => t.inspect
  | .expiration e => e.inspect
  | .duration d => d.inspect
  | .variant v values =>
    Text.record v.name (List.zipWith (fun f x => (f.name, Value.inspect x)) v.fields values)
  | .extension _ payload => Text.record "VaultExtension" [("extension", payload.inspect)]
  | .capability name inner =>
    Text.record "CapabilityMsg" [("capability", name.quoted), ("msg", inner.inspect)]
  | .untouched v => v.inspect

/-- The value of a field of a message. -/
def field? (name : Text) : Message → Option Value
  | .variant v values =>
    ((v.fields.map Field.name).zip values).lookup name
  | _ => none

/-! ## Responses -/

/-- The type of the response that a message itself declares. The payload of a
    capability takes that of the message inside. -/
def returns? : Message → Option Shape
  | .variant v _ => v.returns
  | .capability _ inner => some (inner.returns?.getD .any)
  | _ => none

/-- The type of the response to a query: an extension query takes that of its
    payload, and what declares nothing may be answered by anything. Other
    messages are no queries. -/
def responseShape? : Message → Option Shape
  | .extension .query payload => some (payload.returns?.getD .any)
  | .extension .execute _ => none
  | m => m.returns?

end Message

end ShareVault
