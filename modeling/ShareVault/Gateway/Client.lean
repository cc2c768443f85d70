import ShareVault.Gateway.Session
import ShareVault.Snapshot.Basic

/-! # Operations of a client

    A client asks a vault through a gateway. The answer to a smart query is
    decoded into the type that the query declares; the entry of a raw query is
    sent in Base64. What a vault says about the standard is read from its
    storage, and asked for when the storage does not have it.

    ## Operations
    - `smartQuery`, `rawQuery`: the two kinds of request;
    - `standardInfo`: the standard that the vault follows;
    - `askWith`: a query of the protocol, with arguments;
    - `snapshot`: the totals of the vault, by two requests.
-/

namespace ShareVault

/-- The query of a variant with arguments for its fields. -/
def Variant.ofArguments (v : Variant) (arguments : List Json) : Checked Message :=
  .variant v <$> Variant.loadFields ((v.fields.map Field.name).zip arguments) v.fields

namespace Client

variable {G : Type} [Gateway G]

/-- The data for a query as its response. -/
def responseOf (m : Message) (data : Json) : Except ClientFault Value :=
  (m.decodeResponse data).mapError fun
    | .notQuery kind => .notQuery kind
    | .malformed m => .response m
    | .untagged _ => .untagged

/-- Sends a query and decodes its response. -/
def smartQuery (e : Endpoint) (m : Message) : Exchange G Value := fun s =>
  match m.text, m.tag? with
  | .error f, _ => (.error (.unwritable f), s)
  | .ok _, none => (.error .untagged, s)
  | .ok text, some _ =>
    Session.check (Session.fetch e (.smart (Encoding.encodeUtf8 text))) (responseOf m) s

/-- The data for a key as an entry of the storage. -/
def entryOf (key : Bytes) (data : Json) : Except ClientFault (Option Bytes) :=
  if data.isEmptyOrZero then .ok none
  else match data with
    | .text t =>
      match Base64.decode? t with
      | some b => .ok (some b)
      | none => .error (.notBase64 key)
    | _ => .error .notText

/-- Reads an entry of the storage; there is none if the key is not set. -/
def rawQuery (e : Endpoint) (key : Bytes) : Exchange G (Option Bytes) :=
  Session.check (Session.fetch e (.raw key)) (entryOf key)

/-- The line that the log has when a vault does not store what it says about
    the standard. -/
def fallbackLine (e : Endpoint) : Text :=
  "No raw vault_standard_info on " ++ e.contract ++ ", using smart query"

/-- Asks for the standard that the vault follows. -/
def askStandardInfo (e : Endpoint) : Exchange G Value :=
  smartQuery e (.variant Family.standardInfo [])

/-- Reads which standard the vault follows, from the storage unless `raw` is
    false, else by a query. -/
def standardInfo (e : Endpoint) (raw : Bool) : Exchange G Value := fun s =>
  if raw then
    match rawQuery e Vault.standardInfoKey s with
    | (.error f, s') => (.error f, s')
    | (.ok (some stored), s') =>
      ((Shape.standardInfo.loadText (Json.parseStrictBytes? stored)).mapError .stored, s')
    -- Not stored: the query answers instead.
    | (.ok none, s') => askStandardInfo e { s' with log := s'.log ++ [fallbackLine e] }
  else askStandardInfo e s

/-- Asks the query of a variant with arguments for its fields. -/
def askWith (e : Endpoint) (v : Variant) (arguments : List Json) : Exchange G Value := fun s =>
  match v.ofArguments arguments with
  | .ok m => smartQuery e m s
  | .error issues => (.error (.arguments issues), s)

/-- Asks a query of a capability. -/
def extensionQuery (e : Endpoint) (capability : Text) (inner : Message) : Exchange G Value :=
  smartQuery e (.extension .query (.capability capability inner))

/-- The number that a total is. -/
def totalOf : Value → Int
  | .int n => n
  | _ => 0

/-- The totals of the vault, stamped with an instant. -/
def snapshot (e : Endpoint) (now : Instant) : Exchange G Snapshot := fun s =>
  match askWith e Family.totalAssets [] s with
  | (.error f, s') => (.error f, s')
  | (.ok assets, s') =>
    match askWith e Family.totalSupply [] s' with
    | (.error f, s'') => (.error f, s'')
    | (.ok supply, s'') => (.ok ⟨now, totalOf assets, totalOf supply⟩, s'')

end Client

end ShareVault
