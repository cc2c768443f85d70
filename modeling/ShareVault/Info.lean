import ShareVault.Token

/-! # What a vault says about itself

    The tokens it takes and issues, and the version of the standard with the
    capabilities that it supports.
-/

namespace ShareVault

/-- The token that a vault accepts for deposits, and the one that it issues as
    receipt. -/
structure VaultInfo where
  baseToken : Token
  vaultToken : Token
deriving DecidableEq, Repr

/-- The version of the standard that a vault follows, and the capabilities that
    it supports. -/
structure StandardInfo where
  version : Nat
  extensions : List Text
deriving DecidableEq, Repr

namespace VaultInfo

/-- The names of the fields. -/
def fieldNames : List Text := ["base_token", "vault_token"]

/-- The fields. -/
def fields (m : Members) : Checked VaultInfo :=
  (fun p => ⟨p.1, p.2⟩) <$>
    Checked.both (Reader.field m "base_token" Token.read) (Reader.field m "vault_token" Token.read)

/-- The information about the tokens of a vault. -/
def read (origin : Origin) : Json → Checked VaultInfo :=
  Reader.record origin "VaultInfo" fieldNames fields

/-- Its JSON value. -/
def toJson (i : VaultInfo) : Json :=
  .object [("base_token", i.baseToken.toWire), ("vault_token", i.vaultToken.toWire)]

/-- As a report shows it. -/
def inspect (i : VaultInfo) : Text :=
  Text.record "VaultInfo"
    [("base_token", i.baseToken.inspect), ("vault_token", i.vaultToken.inspect)]

end VaultInfo

namespace StandardInfo

/-- The names of the fields. -/
def fieldNames : List Text := ["version", "extensions"]

/-- The fields; without a list of capabilities there are none. -/
def fields (origin : Origin) (m : Members) : Checked StandardInfo :=
  (fun p => ⟨p.1, p.2⟩) <$>
    Checked.both (Reader.field m "version" (Reader.word 16))
      (Reader.fieldOr m "extensions" [] (Reader.tuple origin Reader.text))

/-- The information about the standard that a vault follows. -/
def read (origin : Origin) : Json → Checked StandardInfo :=
  Reader.record origin "VaultStandardInfo" fieldNames (fields origin)

/-- Its JSON value. -/
def toJson (i : StandardInfo) : Json :=
  .object [("version", .int i.version), ("extensions", .array (i.extensions.map .text))]

/-- The list of names as a report shows it, in parentheses; a single name has a
    comma after it. -/
def inspectNames : List Text → Text
  | [] => "()"
  | [n] => "(" ++ n.quoted ++ ",)"
  | ns => "(" ++ Text.join ", " (ns.map Text.quoted) ++ ")"

/-- As a report shows it. -/
def inspect (i : StandardInfo) : Text :=
  Text.record "VaultStandardInfo"
    [("version", Text.decimal i.version), ("extensions", inspectNames i.extensions)]

end StandardInfo

end ShareVault
