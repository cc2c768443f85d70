import ShareVault.Wire.Union

/-! # Lockups

    Vault tokens that wait to be withdrawn. A lockup ends at a height of the
    chain, at a time, or never; the period of lockups is measured in blocks or
    in seconds.

-/

namespace ShareVault

/-- The point at which a lockup ends. -/
inductive Expiration where
  | atHeight (height : Nat)
  /-- Nanoseconds since the start of 1970. -/
  | atTime (nanos : Nat)
  | never
deriving DecidableEq, Repr

/-- The length of the lockup period. -/
inductive Duration where
  | height (blocks : Nat)
  | time (seconds : Nat)
deriving DecidableEq, Repr

/-- A pending withdrawal. -/
structure Lockup where
  id : Nat
  owner : Text
  baseTokenAmount : Nat
  releaseAt : Expiration
deriving DecidableEq, Repr

/-- A number as a decimal numeral, the form of wide integers. -/
def numeral (n : Nat) : Json := .text (Text.decimal n)

namespace Expiration

/-- The name of the kind of an expiration. -/
def kindName : Expiration → Text
  | .atHeight _ => "AtHeight"
  | .atTime _ => "AtTime"
  | .never => "Never"

/-- The numbers fit into the fields that hold them. -/
def fits : Expiration → Prop
  | .atHeight height => height < twoTo 64
  | .atTime nanos => nanos < twoTo 64
  | .never => True

/-- The message that stands for an expiration. -/
def toWire : Expiration → Json
  | .atHeight height => .object [("at_height", .int height)]
  | .atTime nanos => .object [("at_time", numeral nanos)]
  | .never => .object [("never", .object [])]

/-- An expiration as a report shows it. -/
def inspect : Expiration → Text
  | .atHeight height => Text.record "AtHeight" [("height", Text.decimal height)]
  | .atTime nanos => Text.record "AtTime" [("nanos", Text.decimal nanos)]
  | .never => Text.record "Never" []

/-- The union of expirations. -/
def union : TaggedUnion Expiration :=
  .ofMembers "Expiration" .expiration
    [("at_height", newtypePayload "at_height" "height" fun v => .atHeight <$> Reader.word 64 v),
      ("at_time", newtypePayload "at_time" "nanos" fun v => .atTime <$> Reader.wide 64 v),
      ("never", structPayload "never" [] fun _ => .ok .never)]

/-- An expiration as the value of a field. -/
def read (v : Json) : Checked Expiration := union.field v

end Expiration

namespace Duration

/-- The name of the kind of a duration. -/
def kindName : Duration → Text
  | .height _ => "Height"
  | .time _ => "Time"

/-- The numbers fit into the fields that hold them. -/
def fits : Duration → Prop
  | .height blocks => blocks < twoTo 64
  | .time seconds => seconds < twoTo 64

/-- The message that stands for a duration. -/
def toWire : Duration → Json
  | .height blocks => .object [("height", .int blocks)]
  | .time seconds => .object [("time", .int seconds)]

/-- A duration as a report shows it. -/
def inspect : Duration → Text
  | .height blocks => Text.record "Height" [("blocks", Text.decimal blocks)]
  | .time seconds => Text.record "Time" [("seconds", Text.decimal seconds)]

/-- The union of durations. -/
def union : TaggedUnion Duration :=
  .ofMembers "Duration" .duration
    [("height", newtypePayload "height" "blocks" fun v => .height <$> Reader.word 64 v),
      ("time", newtypePayload "time" "seconds" fun v => .time <$> Reader.word 64 v)]

/-- A duration as the value of a field. -/
def read (v : Json) : Checked Duration := union.field v

end Duration

namespace Lockup

/-- The names of the fields. -/
def fieldNames : List Text := ["id", "owner", "base_token_amount", "release_at"]

/-- The fields of a lockup. -/
def fields (m : Members) : Checked Lockup :=
  (fun p => ⟨p.1, p.2.1, p.2.2.1, p.2.2.2⟩) <$>
    Checked.both (Reader.field m "id" (Reader.word 64))
      (Checked.both (Reader.field m "owner" Reader.text)
        (Checked.both (Reader.field m "base_token_amount" (Reader.wide 128))
          (Reader.field m "release_at" Expiration.read)))

/-- A lockup. -/
def read (origin : Origin) : Json → Checked Lockup :=
  Reader.record origin "Lockup" fieldNames fields

/-- The JSON value of a lockup. -/
def toJson (l : Lockup) : Json :=
  .object [("id", .int l.id), ("owner", .text l.owner),
    ("base_token_amount", numeral l.baseTokenAmount), ("release_at", l.releaseAt.toWire)]

/-- A lockup as a report shows it. -/
def inspect (l : Lockup) : Text :=
  Text.record "Lockup" [("id", Text.decimal l.id), ("owner", l.owner.quoted),
    ("base_token_amount", Text.decimal l.baseTokenAmount), ("release_at", l.releaseAt.inspect)]

/-- The numbers fit into the fields that hold them. -/
def fits (l : Lockup) : Prop :=
  l.id < twoTo 64 ∧ l.baseTokenAmount < twoTo 128 ∧ l.releaseAt.fits

end Lockup

end ShareVault
