import ShareVault.Text.Case
import ShareVault.Wire.Union

/-! # Tokens

    An asset that a vault holds or issues is either native to the host chain and
    known by its denom, or kept by a contract of its own and known by the
    address of the contract.

    ## Conversions
    - `toDenom`, `toAddress`: the name of a token of the expected kind; asking
      for the other kind is a fault, and a host may reject an address.

    Main statement: `decode_toWire`, a token is read back from its message.
-/

namespace ShareVault

/-- An asset that a vault holds or issues. -/
inductive Token where
  /-- An asset of the host chain. -/
  | native (denom : Text)
  /-- An asset that a contract keeps. -/
  | synthetic (address : Text)
deriving DecidableEq, Repr

/-- What a host says about an address. -/
inductive AddressVerdict where
  | canonical (address : Text)
  /-- The address is malformed; the host words the refusal. -/
  | malformed (why : Text)
  /-- The host cannot make sense of the address. -/
  | senseless (why : Text)
  /-- The host itself failed. -/
  | failed (what : Text)
deriving DecidableEq, Repr

/-- Why a token has no name of the wanted kind. -/
inductive TokenFault where
  | notSynthetic (denom : Text)
  | notNative (address : Text)
  | malformedAddress (why : Text)
  | hostFailed (what : Text)
deriving DecidableEq, Repr

/-- The wording of a fault. -/
def TokenFault.message : TokenFault → Text
  | .notSynthetic denom => "Native token " ++ denom ++ " cannot be converted to address"
  | .notNative address =>
    "Synthetic token " ++ address ++ " cannot be converted to native denom"
  | .malformedAddress why => why
  | .hostFailed what => what

namespace Token

/-! ## Kinds -/

/-- Whether the token is native. -/
def isNative : Token → Bool
  | .native _ => true
  | .synthetic _ => false

/-- Whether the token is synthetic. -/
def isSynthetic : Token → Bool
  | .native _ => false
  | .synthetic _ => true

/-- The denom of a native token. -/
def toDenom : Token → Except TokenFault Text
  | .native denom => .ok denom
  | .synthetic address => .error (.notNative address)

/-- The address of a synthetic token, in the form that the host gives it. -/
def toAddress (validate : Text → AddressVerdict) : Token → Except TokenFault Text
  | .native denom => .error (.notSynthetic denom)
  | .synthetic address =>
    match validate address with
    | .canonical a => .ok a
    | .malformed why => .error (.malformedAddress why)
    | .senseless why =>
      .error (.malformedAddress
        ("Invalid synthetic token address " ++ address.quoted ++ ": " ++ why))
    | .failed what => .error (.hostFailed what)

/-- The verdict of a host whose addresses are lowercase and start alike. -/
def checkAddress (start address : Text) : AddressVerdict :=
  if start.isPrefixOf address && address.lower == address then .canonical address
  else .malformed ("Invalid address: " ++ address)

/-! ## Messages -/

/-- The name of the kind of a token. -/
def kindName : Token → Text
  | .native _ => "Native"
  | .synthetic _ => "Synthetic"

/-- The message that stands for a token. -/
def toWire : Token → Json
  | .native denom => .object [("native", .text denom)]
  | .synthetic address => .object [("synthetic", .text address)]

/-- A token as a report shows it. -/
def inspect : Token → Text
  | .native denom => Text.record "Native" [("denom", denom.quoted)]
  | .synthetic address => Text.record "Synthetic" [("address", address.quoted)]

/-- Decodes the denom of a native token. -/
def decodeNative : Decoder Token :=
  newtypePayload "native" "denom" fun v => .native <$> Reader.text v

/-- Decodes the address of a synthetic token. -/
def decodeSynthetic : Decoder Token :=
  newtypePayload "synthetic" "address" fun v => .synthetic <$> Reader.text v

/-- The union of tokens. Older vaults tag synthetic tokens `cw20`. -/
def union : TaggedUnion Token :=
  { TaggedUnion.ofMembers "Token" .token
      [("native", decodeNative), ("synthetic", decodeSynthetic), ("cw20", decodeSynthetic)] with
    aliases := ["cw20"] }

/-- The union is built from two members and one alias. -/
example : TaggedUnion.build "Token" .token
    [("native", decodeNative), ("synthetic", decodeSynthetic)] [("cw20", "synthetic")]
    = .ok union := rfl

/-- A token as the value of a field. -/
def read (v : Json) : Checked Token := union.field v

theorem decode_toWire (t : Token) : union.decode t.toWire = .ok t := by
  cases t <;> rfl

end Token

end ShareVault
