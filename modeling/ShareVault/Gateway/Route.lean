import ShareVault.Gateway.Address
import ShareVault.Json.Parser
import ShareVault.Text.Base64

/-! # Routes of a gateway

    A gateway answers two kinds of request about a contract: smart queries,
    which carry the bytes of a message, and raw queries, which carry the key of
    a storage entry. Either is the last segment of the path, in Base64.
-/

namespace ShareVault

/-- What a gateway is asked. -/
inductive Route where
  | smart (query : Bytes)
  | raw (key : Bytes)
deriving DecidableEq, Repr

/-- Where a client sends its requests. -/
structure Endpoint where
  /-- The address of the gateway, without slashes at its end. -/
  base : Text
  /-- The address of the contract. -/
  contract : Text
  /-- The room that the client has for reading a response. -/
  room : Json.Room
deriving DecidableEq, Repr

namespace Endpoint

/-- The endpoint of a contract behind a gateway, for a client with some room. -/
def make (room : Json.Room) (base contract : Text) : Endpoint :=
  { base := Text.trimRight (· = CodePoint.ofChar '/') base, contract := contract, room := room }

/-- Base64 letters as a segment of a path. -/
def segment (b : Bytes) : Text := Percent.encode Percent.isUnreserved (Base64.encode b)

/-- The path of a route. -/
def path (e : Endpoint) (r : Route) : Text :=
  "/cosmwasm/wasm/v1/contract/" ++ e.contract ++
    (match r with
      | .smart query => "/smart/" ++ segment query
      | .raw key => "/raw/" ++ segment key)

/-- The address of a route: its path below that of the gateway. -/
def address (e : Endpoint) (r : Route) : Except AddressFault Address := do
  let base ← Address.ofText e.base
  let below ← Address.ofText (e.path r)
  base.extended below

/-- The text of the address of a route, if its host can be asked. -/
def url (e : Endpoint) (r : Route) : Except AddressFault Text := do
  let a ← e.address r
  a.checkHost
  return a.text

end Endpoint

end ShareVault
