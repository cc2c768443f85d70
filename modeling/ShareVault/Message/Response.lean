import ShareVault.Message.Families

/-! # Responses to queries

    The response to a query is encoded and decoded by the type that the query
    declares. The response to an extension query is typed by the query inside
    the payload.
-/

namespace ShareVault

/-- Why a response cannot be encoded. -/
inductive EncodeFault where
  /-- The message is no query; its kind is given. -/
  | notQuery (kind : Text)
  /-- The response is nested too deep, or holds a surrogate, which no encoding can
      write. -/
  | unwritable

/-- Why a response cannot be decoded. -/
inductive ResponseFault where
  /-- The message is no query; its kind is given. -/
  | notQuery (kind : Text)
  /-- The response to a query with a tag has issues. -/
  | malformed (m : Malformed)
  /-- The response has issues, but the message has no tag to report them for. -/
  | untagged (issues : List Issue)

namespace Message

/-- What is said about a message that is no query. -/
def notQueryMessage (kind : Text) : Text := kind ++ " is not a query"

/-- The text of the response to a query. -/
def encodeResponse (m : Message) (value : Value) : Except EncodeFault Text :=
  match m.responseShape? with
  | none => .error (.notQuery m.kindName)
  | some s =>
    match s.dumpText? value with
    | some t => .ok t
    | none => .error .unwritable

/-- The value of the response to a query. -/
def decodeResponse (m : Message) (data : Json) : Except ResponseFault Value :=
  match m.responseShape? with
  | none => .error (.notQuery m.kindName)
  | some s =>
    match s.load .value data, m.tag? with
    | .ok v, _ => .ok v
    | .error issues, some tag => .error (.malformed (.response tag issues))
    | .error issues, none => .error (.untagged issues)

end Message

end ShareVault
