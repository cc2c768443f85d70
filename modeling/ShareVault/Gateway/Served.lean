import ShareVault.Gateway.Session

/-! # Gateways

    Two gateways: one in front of a vault, which answers every request by what
    the vault says, and one with prepared attempts, of which the last one
    repeats.
-/

namespace ShareVault

/-! ## A gateway in front of a vault -/

/-- A gateway in front of a vault. -/
structure Served (H : Type) where
  vault : Vault H

namespace Served

/-- The body of a response with data, which is given as JSON text. -/
def bodyOf (data : Text) : Bytes :=
  Encoding.encodeUtf8
    (CodePoint.ofNat 0x7B :: ("\"data\":" ++ data ++ [CodePoint.ofNat 0x7D] : Text))

/-- What the vault answers to the bytes of a query. -/
def smart {H : Type} [Handler H] (v : Vault H) (query : Bytes) : Attempt × Vault H :=
  match (Source.bytes query).json .unlimited with
  | .error _ => (.response 400 [], v)
  | .ok data =>
    match v.queryWire data with
    | (.ok text, v') => (.response 200 (bodyOf text), v')
    | (.error f, v') => (.failed f, v')

/-- The entry of the storage, in Base64; an entry that is not there is empty. -/
def raw {H : Type} (v : Vault H) (key : Bytes) : Attempt :=
  .response 200
    (bodyOf (JsonStyle.value.quote (Base64.encode ((v.rawQuery key).getD []))))

instance {H : Type} [Handler H] : Gateway (Served H) where
  ask g r :=
    match r with
    | .smart query =>
      let (a, v) := smart g.vault query
      (a, ⟨v⟩)
    | .raw key => (raw g.vault key, g)

end Served

/-! ## A gateway with prepared attempts -/

/-- A gateway with prepared attempts. -/
structure Prepared where
  /-- The attempts still to come. -/
  coming : List Attempt

namespace Prepared

/-- The next attempt; the last one stays. -/
def ask (p : Prepared) : Attempt × Prepared :=
  match p.coming with
  | [] => (.response 404 [], p)
  | [a] => (a, p)
  | a :: rest => (a, ⟨rest⟩)

instance : Gateway Prepared where
  ask p _ := p.ask

end Prepared

end ShareVault
