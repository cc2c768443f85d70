import ShareVault.Message.Basic

/-! # The two families of vault messages

    Commands change the vault, queries ask about it. Each family has a fixed set
    of variants and one more that carries the payload for a capability; what a
    payload may be is up to the union that the family is built over.

    ## Commands
    - `deposit`: base tokens in, vault tokens out;
    - `redeem`: vault tokens in, base tokens out.

    ## Queries
    - the standard that the vault follows, and its tokens;
    - what a deposit or a redeem would give now, and how much is allowed;
    - totals, and conversions for display.

    ## Unions
    - `Family.union`: a family, over the payloads for capabilities;
    - `TaggedUnion.coerce`: decodes what is not yet one of the messages of a union.
-/

namespace ShareVault

namespace Field

/-- A field that must be there. -/
def required (name : Text) (shape : Shape) : Field := ⟨name, shape, none⟩

/-- A field that is null when it is not there. -/
def orNull (name : Text) (shape : Shape) : Field := ⟨name, .optional shape, some .null⟩

end Field

namespace Variant

/-- A variant of the family `family` that changes a vault: it declares no type
    for the response. -/
def command (family name : Text) (fields : List Field) : Variant :=
  ⟨some family, name, .struct fields, none⟩

/-- A variant of the family `family` that asks a vault, with the type of the
    response. -/
def question (family name : Text) (fields : List Field) (returns : Shape) : Variant :=
  ⟨some family, name, .struct fields, some returns⟩

end Variant

namespace Family

/-- Unsigned integers of 128 bits, the type of amounts. -/
def amountShape : Shape := .wide 128

/-! ## Commands -/

/-- Deposits base tokens for a recipient, or for the caller. -/
def deposit : Variant :=
  .command execute.name "Deposit" [.required "amount" amountShape, .orNull "recipient" .text]

/-- Redeems vault tokens; a recipient, or the caller, receives the assets. -/
def redeem : Variant :=
  .command execute.name "Redeem" [.orNull "recipient" .text, .required "amount" amountShape]

/-! ## Queries -/

/-- Asks for the standard that the vault follows. -/
def standardInfo : Variant := .question query.name "VaultStandardInfo" [] .standardInfo

/-- Asks for the tokens of the vault. -/
def info : Variant := .question query.name "Info" [] .vaultInfo

/-- Asks what a deposit would mint now. -/
def previewDeposit : Variant :=
  .question query.name "PreviewDeposit" [.required "amount" amountShape] amountShape

/-- Asks what a redeem would pay now. -/
def previewRedeem : Variant :=
  .question query.name "PreviewRedeem" [.required "amount" amountShape] amountShape

/-- Asks how much may be deposited for a recipient; null means any amount. -/
def maxDeposit : Variant :=
  .question query.name "MaxDeposit" [.required "recipient" .text] (.optional amountShape)

/-- Asks how many vault tokens an owner may redeem. -/
def maxRedeem : Variant :=
  .question query.name "MaxRedeem" [.required "owner" .text] (.optional amountShape)

/-- Asks for the assets under management. -/
def totalAssets : Variant := .question query.name "TotalAssets" [] amountShape

/-- Asks for the number of vault tokens. -/
def totalSupply : Variant := .question query.name "TotalVaultTokenSupply" [] amountShape

/-- Asks for the worth of assets in vault tokens. -/
def convertToShares : Variant :=
  .question query.name "ConvertToShares" [.required "amount" amountShape] amountShape

/-- Asks for the worth of vault tokens in assets. -/
def convertToAssets : Variant :=
  .question query.name "ConvertToAssets" [.required "amount" amountShape] amountShape

/-- The variants of a family. -/
def variants : Family → List Variant
  | .execute => [deposit, redeem]
  | .query => [standardInfo, info, previewDeposit, previewRedeem, maxDeposit, maxRedeem,
      totalAssets, totalSupply, convertToShares, convertToAssets]

end Family

/-! ## Unions of messages -/

namespace Variant

/-- A variant as the member of a union. -/
def member (v : Variant) : Text × Decoder Message :=
  (v.tag, fun payload => .variant v <$> v.decodeValues payload)

end Variant

/-- The union of a family over the decoder of payloads for capabilities. -/
def Family.union (f : Family) (payload : Decoder Message) : TaggedUnion Message :=
  .ofMembers f.name .variant
    (f.variants.map Variant.member
      ++ [(Message.extensionTag, fun p => .extension f <$> payload p)])

/-- A decoder that keeps the payload as it is. -/
def untouchedPayload : Decoder Message := fun v => .ok (.untouched v)

/-! ## What may be decoded already -/

/-- What a union is given: a JSON value, or a message that is decoded already. -/
inductive Candidate where
  | raw (v : Json)
  | decoded (m : Message)

/-- Whether a value is of a type. Tokens, expirations and durations are variants, too,
    while the payload for a capability is none. -/
def Base.admits : Base → Candidate → Bool
  | .anything, _ => true
  | .token, .decoded (.token _) => true
  | .expiration, .decoded (.expiration _) => true
  | .duration, .decoded (.duration _) => true
  | .variant, .decoded (.token _) => true
  | .variant, .decoded (.expiration _) => true
  | .variant, .decoded (.duration _) => true
  | .variant, .decoded (.variant _ _) => true
  | .variant, .decoded (.extension _ _) => true
  | .capability, .decoded (.capability _ _) => true
  | _, _ => false

/-- What is of the type of the members passes, and everything else is decoded. A message
    of another type is no JSON object, so there is nothing to decode. -/
def TaggedUnion.coerce (u : TaggedUnion Message) (c : Candidate) :
    Except DecodeFault Candidate :=
  if u.base.admits c then .ok c
  else match c with
    | .raw v => .decoded <$> u.decode v
    | .decoded m => .error (.malformed (.foreign u.name m.inspect))

end ShareVault
