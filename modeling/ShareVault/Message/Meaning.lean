import ShareVault.Message.Families

/-! # What messages mean to a vault

    A vault understands the variants of its own families, whatever union a
    message was decoded by, and a payload for a capability in either family.

    ## Types
    - `Command`: what changes the vault;
    - `Question`: what asks about it.

    Main statements: `Command.ofMessage?_toMessage`, `Question.ofMessage?_toMessage`,
    the message that states a command or a question means just that.
-/

namespace ShareVault

/-- What a message asks a vault to do. -/
inductive Command where
  | deposit (amount : Int) (recipient : Option Text)
  | redeem (amount : Int) (recipient : Option Text)
  /-- Something that a capability does. -/
  | extension (payload : Message)

/-- What a message asks a vault. -/
inductive Question where
  | standardInfo
  | info
  | previewDeposit (amount : Int)
  | previewRedeem (amount : Int)
  | maxDeposit (recipient : Text)
  | maxRedeem (owner : Text)
  | totalAssets
  | totalSupply
  | convertToShares (amount : Int)
  | convertToAssets (amount : Int)
  /-- Something that a capability answers. -/
  | extension (payload : Message)

/-- Whether two declarations are of the same variant. -/
def Variant.same (v w : Variant) : Bool := v.family == w.family && v.name == w.name

/-- The text of a value that is null or a text. -/
def Value.text? : Value → Option Text
  | .text t => some t
  | _ => none

/-- A text, or null. -/
def Value.ofText? : Option Text → Value
  | some t => .text t
  | none => .null

namespace Command

/-- The command that a message states. -/
def ofMessage? : Message → Option Command
  | .extension .execute payload => some (.extension payload)
  | .variant v values =>
    match values with
    | [.int amount, recipient] =>
      if v.same Family.deposit then some (.deposit amount recipient.text?) else none
    | [recipient, .int amount] =>
      if v.same Family.redeem then some (.redeem amount recipient.text?) else none
    | _ => none
  | _ => none

/-- The message that states a command. -/
def toMessage : Command → Message
  | .deposit amount recipient =>
    .variant Family.deposit [.int amount, .ofText? recipient]
  | .redeem amount recipient =>
    .variant Family.redeem [.ofText? recipient, .int amount]
  | .extension payload => .extension .execute payload

theorem ofMessage?_toMessage (c : Command) : ofMessage? c.toMessage = some c := by
  cases c with
  | deposit amount recipient =>
    cases recipient <;> rfl
  | redeem amount recipient =>
    cases recipient <;> rfl
  | extension payload => rfl

end Command

namespace Question

/-- The question about an amount that a variant states. -/
def ofAmount? (v : Variant) (amount : Int) : Option Question :=
  if v.same Family.previewDeposit then some (.previewDeposit amount)
  else if v.same Family.previewRedeem then some (.previewRedeem amount)
  else if v.same Family.convertToShares then some (.convertToShares amount)
  else if v.same Family.convertToAssets then some (.convertToAssets amount)
  else none

/-- The question about an address that a variant states. -/
def ofAddress? (v : Variant) (address : Text) : Option Question :=
  if v.same Family.maxDeposit then some (.maxDeposit address)
  else if v.same Family.maxRedeem then some (.maxRedeem address)
  else none

/-- The question that a variant without fields states. -/
def ofName? (v : Variant) : Option Question :=
  if v.same Family.standardInfo then some .standardInfo
  else if v.same Family.info then some .info
  else if v.same Family.totalAssets then some .totalAssets
  else if v.same Family.totalSupply then some .totalSupply
  else none

/-- The question that a message states. -/
def ofMessage? : Message → Option Question
  | .extension .query payload => some (.extension payload)
  | .variant v values =>
    match values with
    | [.int amount] => ofAmount? v amount
    | [.text address] => ofAddress? v address
    | [] => ofName? v
    | _ => none
  | _ => none

/-- The message that states a question. -/
def toMessage : Question → Message
  | .standardInfo => .variant Family.standardInfo []
  | .info => .variant Family.info []
  | .previewDeposit amount => .variant Family.previewDeposit [.int amount]
  | .previewRedeem amount => .variant Family.previewRedeem [.int amount]
  | .maxDeposit recipient => .variant Family.maxDeposit [.text recipient]
  | .maxRedeem owner => .variant Family.maxRedeem [.text owner]
  | .totalAssets => .variant Family.totalAssets []
  | .totalSupply => .variant Family.totalSupply []
  | .convertToShares amount => .variant Family.convertToShares [.int amount]
  | .convertToAssets amount => .variant Family.convertToAssets [.int amount]
  | .extension payload => .extension .query payload

theorem ofMessage?_toMessage (q : Question) : ofMessage? q.toMessage = some q := by
  cases q <;> rfl

end Question

end ShareVault
