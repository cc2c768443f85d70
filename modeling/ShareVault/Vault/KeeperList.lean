import ShareVault.Capability.Keeper
import ShareVault.Message.Meaning
import ShareVault.Vault.Handler

/-! # A list of keepers

    The simplest handler of the keeper capability: anybody may change the list,
    and harvests are counted. An address can be in the list several times;
    removing takes the first one.

    Main statement: `execute_error`, what fails leaves the list as it is.
-/

namespace ShareVault

/-- The keepers in the order in which they were added, and the harvests so far. -/
structure KeeperList where
  keepers : List Text
  harvests : Nat
deriving DecidableEq, Repr

namespace KeeperList

open Capability.Keeper (addKeeper removeKeeper harvest)

/-- A list without keepers. -/
def empty : KeeperList := ⟨[], 0⟩

/-- The address that a message is about. -/
def address? (m : Message) : Option Text := (m.field? "address").bind Value.text?

/-- Whether a message is of a variant. -/
def isOf (v : Variant) : Message → Bool
  | .variant w _ => w.same v
  | _ => false

/-- Adds or removes a keeper, or counts a harvest. Other commands do nothing. -/
def execute (l : KeeperList) (m : Message) : Except HandlerFault Value × KeeperList :=
  let address := (address? m).getD []
  if isOf addKeeper m then (.ok .null, { l with keepers := l.keepers ++ [address] })
  else if isOf removeKeeper m then
    if l.keepers.contains address then
      (.ok .null, { l with keepers := l.keepers.erase address })
    else (.error .absent, l)
  else if isOf harvest m then (.ok .null, { l with harvests := l.harvests + 1 })
  else (.ok .null, l)

/-- All keepers, or whether an address is one of them. -/
def query (l : KeeperList) (m : Message) : Except HandlerFault Value :=
  if isOf Capability.Keeper.keepers m then .ok (.list (l.keepers.map .text))
  else match address? m with
    | some a => .ok (.bool (l.keepers.contains a))
    | none => .error .noField

instance : Handler KeeperList where
  execute l m _ _ := l.execute m
  query l m := (l.query m, l)

/-- What fails leaves the list as it is. -/
theorem execute_error {l : KeeperList} {m : Message} {f : HandlerFault}
    (h : (l.execute m).1 = .error f) : (l.execute m).2 = l := by
  revert h
  simp only [execute]
  split
  · intro h; cases h
  · split
    · split
      · intro h; cases h
      · intro _; rfl
    · split
      · intro h; cases h
      · intro _; rfl

end KeeperList

end ShareVault
