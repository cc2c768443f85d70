import ShareVault.Settings

/-! # Snapshots

    The totals of a vault at one instant. Snapshots are read as leniently as
    settings.
-/

namespace ShareVault

/-- The totals of a vault at one instant. -/
structure Snapshot where
  timestamp : Instant
  totalAssets : Int
  totalSupply : Int
deriving DecidableEq, Repr

namespace Lenient

/-- The number of seconds or milliseconds as an instant. -/
def timestamp (x : Except DateProblem Instant) : Checked Instant :=
  match x with
  | .ok i => .ok i
  | .error p => Checked.fail (.badTimestamp p)

/-- The instant that a text writes. -/
def instantText (t : Text) : Checked Instant :=
  if t.isWellFormed then
    match Instant.ofText t with
    | .ok i => .ok i
    -- A date of year 0 is well written; there is just no such year.
    | .error .yearZero => Checked.fail (.badTimestamp .yearZero)
    | .error p => Checked.fail (.badDate p)
  else Checked.fail .notUnicode

/-- The instant that an integer means. One beyond 64 bits counts as a double when
    it is at hand, and not at all in a text. -/
def instantInteger (origin : Origin) (n : Int) : Checked Instant :=
  if isSignedWord n then timestamp (Instant.ofInteger n)
  else
    let x := Binary64.ofInt n
    if origin = .value && x.isFinite then timestamp (Instant.ofNumber x)
    else Checked.fail .notInstant

/-- An instant, or a text or a number that means one. -/
def instant (origin : Origin) : Json → Checked Instant
  | .text t => instantText t
  | .int n => instantInteger origin n
  | .float x => timestamp (Instant.ofNumber x)
  | _ => Checked.fail .notInstant

end Lenient

namespace Snapshot

/-- The fields of a snapshot. -/
def fields (origin : Origin) (m : Members) : Checked Snapshot :=
  (fun p => ⟨p.1, p.2.1, p.2.2⟩) <$>
    Checked.both (Reader.field m "timestamp" (Lenient.instant origin))
      (Checked.both (Reader.field m "total_assets" Lenient.integer)
        (Reader.field m "total_supply" Lenient.integer))

/-- The snapshot that a record gives; unknown keys do not count. -/
def read (origin : Origin) : Json → Checked Snapshot
  | .object m => fields origin m
  | _ => Checked.fail (.notRecord "VaultSnapshot" origin)

/-- The snapshot that a strict JSON text gives. -/
def readText : Option Json → Checked Snapshot
  | some v => read .text v
  | none => Checked.fail .notJson

/-- The snapshot as a JSON value. -/
def toJson (s : Snapshot) : Json :=
  .object [("timestamp", .text s.timestamp.text), ("total_assets", .int s.totalAssets),
    ("total_supply", .int s.totalSupply)]

end Snapshot

end ShareVault
