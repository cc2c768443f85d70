import ShareVault.Message.Basic

/-! # Handlers of capabilities

    A handler carries out the commands and answers the queries of a capability.
    It has a state of its own, which it may change in either case, also when it
    fails.

    That state is all that it works on. A handler is not given the vault, so it can
    neither read the ledger nor change it, and no two names share a state. A program
    may do otherwise: hand the vault itself to its handlers, or let one object serve
    two names. What is said here of vaults is said of handlers that keep to themselves.
-/

namespace ShareVault

/-- Why a handler does not do what it is asked. -/
inductive HandlerFault where
  /-- It refuses in the terms of the standard, with a kind of refusal. -/
  | refused (kind why : Text)
  /-- It fails in another way. -/
  | failed (kind why : Text)
  /-- What it should remove is not there. -/
  | absent
  /-- The message does not have the field that the answer is about. -/
  | noField
  /-- Its answer does not have the declared type. -/
  | badAnswer (issues : List Issue)

/-- Handlers whose state is of type `H`. What a handler does depends on its own state
    and on the message, and changes nothing but that state: the vault is not handed over,
    and the states under two names are two states. -/
class Handler (H : Type) where
  /-- Carries out a command of a sender who attached funds. -/
  execute : H → Message → Text → Int → Except HandlerFault Value × H
  /-- Answers a query. -/
  query : H → Message → Except HandlerFault Value × H

end ShareVault
