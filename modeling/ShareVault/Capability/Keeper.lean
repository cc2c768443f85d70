import ShareVault.Message.Families

/-! # The keeper capability

    A set of addresses that may run the maintenance of a vault, such as
    harvesting rewards.
-/

namespace ShareVault.Capability.Keeper

/-- The name of the union of the commands. -/
def commandsName : Text := "KeeperExecuteMsg"

/-- The name of the union of the queries. -/
def queriesName : Text := "KeeperQueryMsg"

/-! ## Commands -/

/-- Makes an address a keeper. -/
def addKeeper : Variant := .command commandsName "AddKeeper" [.required "address" .text]

/-- Makes an address a keeper no more. -/
def removeKeeper : Variant := .command commandsName "RemoveKeeper" [.required "address" .text]

/-- Collects and compounds pending rewards. -/
def harvest : Variant := .command commandsName "Harvest" []

/-! ## Queries -/

/-- Asks for all keepers. -/
def keepers : Variant := .question queriesName "Keepers" [] (.list .text)

/-- Asks whether an address is a keeper. -/
def isKeeper : Variant := .question queriesName "IsKeeper" [.required "address" .text] .boolean

/-- The union of the commands. Its members have no type of their own. -/
def execute : TaggedUnion Message :=
  .ofMembers commandsName .anything ([addKeeper, removeKeeper, harvest].map Variant.member)

/-- The union of the queries. Its members have no type of their own. -/
def query : TaggedUnion Message :=
  .ofMembers queriesName .anything ([keepers, isKeeper].map Variant.member)

end ShareVault.Capability.Keeper
