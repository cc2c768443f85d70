import ShareVault.Message.Families

/-! # The lockup capability

    Vault tokens are put into escrow by `unlock` and can be withdrawn only when
    their lockup period has passed.
-/

namespace ShareVault.Capability.Lockup

/-- The name of the union of the commands. -/
def commandsName : Text := "LockupExecuteMsg"

/-- The name of the union of the queries. -/
def queriesName : Text := "LockupQueryMsg"

/-! ## Commands -/

/-- Puts vault tokens into escrow and starts their lockup period. -/
def unlock : Variant := .command commandsName "Unlock" [.required "amount" (.wide 128)]

/-- Withdraws the assets of a lockup that has ended. -/
def withdrawUnlocked : Variant :=
  .command commandsName "WithdrawUnlocked"
    [.orNull "recipient" .text, .required "lockup_id" (.word 64)]

/-- Redeems at once, without a lockup. -/
def emergencyUnlock : Variant :=
  .command commandsName "EmergencyUnlock" [.required "amount" (.wide 128)]

/-! ## Queries -/

/-- Asks for the lockups of an owner, page by page. -/
def lockups : Variant :=
  .question queriesName "Lockups"
    [.required "owner" .text, .orNull "start_after" (.word 64), .orNull "limit" (.word 32)]
    (.list .lockup)

/-- Asks for one lockup. -/
def lockup : Variant := .question queriesName "Lockup" [.required "lockup_id" (.word 64)] .lockup

/-- Asks for the length of the lockup period. -/
def lockupDuration : Variant := .question queriesName "LockupDuration" [] .duration

/-- The union of the commands. Its members have no type of their own. -/
def execute : TaggedUnion Message :=
  .ofMembers commandsName .anything
    ([unlock, withdrawUnlocked, emergencyUnlock].map Variant.member)

/-- The union of the queries. Its members have no type of their own. -/
def query : TaggedUnion Message :=
  .ofMembers queriesName .anything ([lockups, lockup, lockupDuration].map Variant.member)

end ShareVault.Capability.Lockup
