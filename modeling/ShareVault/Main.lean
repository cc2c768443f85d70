import ShareVault.Gateway.Served
import ShareVault.Snapshot.History

/-! # Command line

    Takes a snapshot of the configured vault, prints what the run prints, and
    ends with status 1 when the run fails. The settings are the default ones,
    which name no vault; connections are up to whoever embeds the library, so
    the gateway here has no attempt to offer.
-/

open ShareVault

/-- What is said about a run that failed. -/
def runFaultText : RunFault → Text
  | .noVault => RunFault.noVaultMessage
  | .client _ => "The gateway gave no usable answer."
  | .frame _ => "The totals make no row of the history."

/-- One run with the default settings. -/
def main : IO UInt32 := do
  let session : Session Prepared := Session.start ⟨[]⟩
  let run := History.run Settings.default .unlimited (Instant.midnight (1970, 1, 1)) none session
  IO.print run.output.toString
  match run.outcome with
  | .ok _ => return 0
  | .error f =>
    IO.eprintln (runFaultText f).toString
    return 1
