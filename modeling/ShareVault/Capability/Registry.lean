import ShareVault.Capability.Lockup
import ShareVault.Capability.Keeper

/-! # Capabilities and their registry

    A capability is an optional extension of a vault: a name, the commands and
    the queries. The registry keeps the known capabilities in the order in which
    they were registered, and that order is the normal form of every list of
    enabled capabilities.

    ## Operations
    - `Registry.register`, `Registry.find?`: the known capabilities;
    - `Registry.enabled`: a list of names in normal form;
    - `Registry.payloadUnion`: the payloads for the enabled capabilities;
    - `Registry.standardInfo`: what a vault with these capabilities says.
-/

namespace ShareVault

/-- An optional extension of a vault. -/
structure Capability where
  name : Text
  execute : TaggedUnion Message
  query : TaggedUnion Message

namespace Capability

/-- Lockups of vault tokens. -/
def lockup : Capability := ⟨"lockup", Lockup.execute, Lockup.query⟩

/-- Keepers of the vault. -/
def keeper : Capability := ⟨"keeper", Keeper.execute, Keeper.query⟩

/-- The union of the messages that a family has for the capability. -/
def union (c : Capability) : Family → TaggedUnion Message
  | .execute => c.execute
  | .query => c.query

end Capability

/-- The known capabilities, in the order of registration. -/
abbrev Registry := List Capability

/-- Why a vault cannot say what it supports. -/
inductive SupportFault where
  /-- A capability is not known. -/
  | unsupported (capability : Text)
  /-- The version is none. -/
  | invalid (issues : List Issue)

namespace Registry

/-- The capabilities that are always there. -/
def standard : Registry := [Capability.lockup, Capability.keeper]

/-- The capability of a name. -/
def find? (r : Registry) (name : Text) : Option Capability :=
  List.find? (fun c => c.name == name) r

/-- The names in the order of registration. -/
def names (r : Registry) : List Text := r.map Capability.name

/-- Makes a capability known. A name can be taken only once; the fault gives
    the name. -/
def register (r : Registry) (c : Capability) : Except Text Registry :=
  if r.names.contains c.name then .error c.name else .ok (r ++ [c])

/-- The wording of the refusal to register a name. -/
def registeredMessage (name : Text) : Text :=
  "Capability " ++ name.quoted ++ " is already registered"

/-! ## Enabled capabilities -/

/-- The wanted names in the order of registration, each once; the fault gives
    a wanted name that is not known. -/
def enabled (r : Registry) (wanted : List Text) : Except Text (List Text) :=
  match wanted.find? fun name => !r.names.contains name with
  | some name => .error name
  | none => .ok (r.names.filter fun name => wanted.contains name)

/-- The name of the union of payloads of a family. -/
def payloadName : Family → Text
  | .execute => "ExtensionExecuteMsg"
  | .query => "ExtensionQueryMsg"

/-- The payload for one capability. -/
def payloadMember (f : Family) (c : Capability) : Text × Decoder Message :=
  (c.name, fun p => .capability c.name <$> (c.union f).decode p)

/-- The union of the payloads for the wanted capabilities. -/
def payloadUnion (r : Registry) (f : Family) (wanted : List Text) :
    Except Text (TaggedUnion Message) :=
  (r.enabled wanted).map fun names =>
    { name := payloadName f
      decoders := (r.filter fun c => names.contains c.name).map (payloadMember f)
      aliases := []
      unknown := .unsupported
      base := .capability }

/-- The union of a family over the payloads for the wanted capabilities. -/
def union (r : Registry) (f : Family) (wanted : List Text) :
    Except Text (TaggedUnion Message) :=
  (r.payloadUnion f wanted).map fun u => f.union u.decode

/-! ## Standard info -/

/-- The version of the standard that vaults follow by default. -/
def defaultVersion : Nat := 1

/-- The names of the capabilities that are enabled by default. -/
def defaultNames : List Text := ["lockup", "keeper"]

/-- What a vault with the wanted capabilities says about itself. The version is
    checked like the field of a message. -/
def standardInfo (r : Registry) (version : Json) (wanted : List Text) :
    Except SupportFault StandardInfo :=
  match r.enabled wanted with
  | .error name => .error (.unsupported name)
  | .ok names =>
    match Checked.under (.key "version") (Reader.word 16 version) with
    | .ok n => .ok ⟨n, names⟩
    | .error issues => .error (.invalid issues)

end Registry

end ShareVault
