import ShareVault.Gateway.Route
import ShareVault.Vault.Basic

/-! # Sessions with a gateway

    A gateway is asked by attempts. An attempt that the transport drops is made
    again after a wait, five times in all; whatever else comes of an attempt is
    final. A response counts when its status is that of success and its body is
    a JSON object with data. Nothing is sent to what is no address, and no response
    counts from an address that does not tell how it is reached.

    ## Types
    - `Attempt`: what came of one attempt;
    - `Gateway`: gateways with a state of type `G`;
    - `Session`: a gateway, and what was sent, waited for and logged so far;
    - `ClientFault`: why an operation fails.

    Main statements:
    - `attempts_response`: a response is final, whatever its status;
    - `attempts_dropped`: a dropped attempt is followed by the next one;
    - `fetch_of_no_address`: nothing is sent to what is no address.
-/

namespace ShareVault

/-! ## Attempts -/

/-- A failure of the connection, as it is reported. -/
structure TransportFault where
  kind : Text
  text : Text
deriving DecidableEq, Repr

/-- What came of one attempt. -/
inductive Attempt where
  | response (status : Nat) (body : Bytes)
  /-- The transport failed. -/
  | dropped (f : TransportFault)
  /-- The exchange failed although the transport worked. -/
  | broken (f : TransportFault)
  /-- The vault behind the gateway failed. -/
  | failed (f : VaultFault)

/-- Gateways whose state is of type `G`. -/
class Gateway (G : Type) where
  ask : G → Route → Attempt × G

/-- Why an operation of a client fails. -/
inductive ClientFault where
  /-- There is no address to ask. -/
  | address (f : AddressFault)
  /-- The address does not tell how it is reached. -/
  | unreachable
  /-- The message cannot be written. -/
  | unwritable (f : WriteFault)
  | dropped (f : TransportFault)
  | broken (f : TransportFault)
  | failed (f : VaultFault)
  /-- The status of the response is not that of success. -/
  | status (n : Nat)
  /-- The body of the response is no JSON. -/
  | body (e : JsonError)
  /-- The body of the response is no object with data. -/
  | unexpected (body : Json)
  /-- The data has not the type of the response to the query. -/
  | response (m : Malformed)
  /-- The stored information about the standard has issues. -/
  | stored (issues : List Issue)
  /-- The data for a key is a text, but not Base64. -/
  | notBase64 (key : Bytes)
  /-- The data for a key is no text. -/
  | notText
  /-- The message is no query; its kind is given. -/
  | notQuery (kind : Text)
  /-- The message has no tag. -/
  | untagged
  /-- The arguments of a query have issues. -/
  | arguments (issues : List Issue)

namespace ClientFault

/-- The wording of a body that is not expected. -/
def unexpectedMessage (body : Json) : Text := "Unexpected LCD response: " ++ body.display

/-- The wording of the fault of stored information, up to the issues. -/
def storedMessage : Text := "Stored vault standard info is malformed: "

/-- The wording of data that is not Base64. -/
def notBase64Message (key : Bytes) : Text :=
  "Raw query returned invalid base64 for key " ++ Text.quotedBytes key

end ClientFault

/-! ## Sessions -/

/-- A gateway, and what a client did with it. -/
structure Session (G : Type) where
  gateway : G
  /-- The addresses that were asked. -/
  requests : List Text
  /-- The seconds that were waited before further attempts. -/
  waits : List Nat
  log : List Text

/-- An operation that uses a session: its outcome, and the session after it. -/
abbrev Exchange (G α : Type) := Session G → Except ClientFault α × Session G

namespace Session

/-- A session that has not begun. -/
def start {G : Type} (gateway : G) : Session G := ⟨gateway, [], [], []⟩

variable {G : Type}

/-- Applies a check to the outcome of an operation. -/
def check {α β : Type} (x : Exchange G α) (f : α → Except ClientFault β) : Exchange G β :=
  fun s =>
    let (outcome, s') := x s
    (outcome.bind f, s')

/-- The data in the body of a response, which is read as deep as there is room. -/
def dataOf (room : Json.Room) (body : Bytes) : Except ClientFault Json :=
  match (Source.bytes body).json room with
  | .error e => .error (.body e)
  | .ok v =>
    match v.get? "data" with
    | some data => .ok data
    | none => .error (.unexpected v)

/-- What a response gives. -/
def accept (room : Json.Room) (status : Nat) (body : Bytes) : Except ClientFault Json :=
  if 200 ≤ status ∧ status < 300 then dataOf room body else .error (.status status)

/-- The attempts of one request. -/
def maxAttempts : Nat := 5

/-- The seconds to wait after `k` attempts and one more have failed: the powers
    of two, from one to ten. -/
def waitAfter (k : Nat) : Nat := max 1 (min 10 (twoTo k))

/-- What a response from an address gives. -/
def acceptFrom (room : Json.Room) (url : Text) (status : Nat) (body : Bytes) :
    Except ClientFault Json :=
  if Address.isReachable url then accept room status body else .error .unreachable

/-- Makes attempts, of which `k` have failed and `more` may follow the next. -/
def attempts [Gateway G] (room : Json.Room) (url : Text) (r : Route) :
    (more k : Nat) → Exchange G Json
  | more, k, s =>
    match Gateway.ask s.gateway r with
    | (a, g) =>
      let asked := { s with gateway := g, requests := s.requests ++ [url] }
      match a with
      | .response status body => (acceptFrom room url status body, asked)
      | .broken f => (.error (.broken f), asked)
      | .failed f => (.error (.failed f), asked)
      -- Only a dropped attempt is made again, after a wait.
      | .dropped f =>
        match more with
        | 0 => (.error (.dropped f), asked)
        | n + 1 =>
          attempts room url r n (k + 1) { asked with waits := asked.waits ++ [waitAfter k] }

theorem attempts_response [Gateway G] {r : Route} {s : Session G} {g : G} {status : Nat}
    {body : Bytes} (h : Gateway.ask s.gateway r = (.response status body, g)) (room : Json.Room)
    (url : Text) (more k : Nat) :
    attempts room url r more k s
      = (acceptFrom room url status body,
          { s with gateway := g, requests := s.requests ++ [url] }) := by
  rw [attempts.eq_def]
  simp [h]

theorem attempts_dropped [Gateway G] {r : Route} {s : Session G} {g : G} {f : TransportFault}
    (h : Gateway.ask s.gateway r = (.dropped f, g)) (room : Json.Room) (url : Text)
    (more k : Nat) :
    attempts room url r (more + 1) k s
      = attempts room url r more (k + 1)
          { s with gateway := g, requests := s.requests ++ [url]
                   waits := s.waits ++ [waitAfter k] } := by
  rw [attempts.eq_def]
  simp [h]

/-- The data that the gateway has for a route. -/
def fetch [Gateway G] (e : Endpoint) (r : Route) : Exchange G Json := fun s =>
  match e.url r with
  | .ok url => attempts e.room url r (maxAttempts - 1) 0 s
  | .error f => (.error (.address f), s)

theorem fetch_of_no_address [Gateway G] {e : Endpoint} {r : Route} {f : AddressFault}
    (h : e.url r = .error f) (s : Session G) : fetch e r s = (.error (.address f), s) := by
  simp [fetch, h]

end Session

end ShareVault
