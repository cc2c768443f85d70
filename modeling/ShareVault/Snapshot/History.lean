import ShareVault.Gateway.Client
import ShareVault.Snapshot.Frame

/-! # The history of snapshots

    A run takes a snapshot of the configured vault and appends it to a history
    that outlives the run. It first reads what the vault says about itself, then
    the totals; the history is touched only when all of that has succeeded.

    Main statements:
    - `run_history_of_error`: a run that fails leaves the history as it is;
    - `run_history_of_ok`: one that succeeds appends one row.
-/

namespace ShareVault

/-- A row of the history. Totals are kept as decimal numerals, so that none is
    too large. -/
structure HistoryRow where
  timestamp : Instant
  totalAssets : Text
  totalSupply : Text
  sharePrice : Binary64
deriving DecidableEq, Repr

/-- The rows recorded so far, if there are any. -/
abbrev History := Option (List HistoryRow)

/-- Why a run fails. -/
inductive RunFault where
  /-- No vault is configured. -/
  | noVault
  | client (f : ClientFault)
  | frame (f : FrameFault)

/-- What is said when no vault is configured. -/
def RunFault.noVaultMessage : Text :=
  "No vault address configured. Set Settings.vault_address first."

namespace History

/-- The row of the history for a row of a frame. -/
def rowOf (r : FrameRow) : HistoryRow :=
  { timestamp := r.snapshot.timestamp
    totalAssets := Text.ofInt r.snapshot.totalAssets
    totalSupply := Text.ofInt r.snapshot.totalSupply
    sharePrice := r.sharePrice }

/-- The history with more rows at its end. -/
def append (h : History) (rows : List HistoryRow) : History := some (h.getD [] ++ rows)

/-! ## Lines -/

/-- The line about the standard that the vault follows. -/
def standardLine : Value → Text
  | .standardInfo i =>
    "Vault standard v" ++ Text.decimal i.version ++ " extensions="
      ++ (Json.array (i.extensions.map .text)).inspect ++ "\n"
  | v => v.inspect ++ "\n"

/-- The line about the tokens of the vault. -/
def tokensLine : Value → Text
  | .vaultInfo i =>
    "Base token: " ++ i.baseToken.toWire.inspect ++ "  vault token: "
      ++ i.vaultToken.toWire.inspect ++ "\n"
  | v => v.inspect ++ "\n"

/-- The price in the last of some rows. -/
def lastPrice (rows : List HistoryRow) : Binary64 :=
  match rows.getLast? with
  | some r => r.sharePrice
  | none => .nan

/-- The line about the history as it is now. -/
def writtenLine (path : Text) (rows : List HistoryRow) : Text :=
  "Wrote " ++ path ++ " ✅ rows=" ++ Text.decimal rows.length ++ " share_price="
    ++ NumberLayout.report.write (lastPrice rows) ++ "\n"

/-! ## Runs -/

/-- What came of a run. -/
structure Run (G : Type) where
  outcome : Except RunFault Unit
  /-- What was printed. -/
  output : Text
  history : History
  session : Session G

variable {G : Type} [Gateway G]

/-- The rows that a run appends, what it printed before, and its session. -/
def collect (e : Endpoint) (now : Instant) (s : Session G) :
    Except RunFault (List FrameRow) × Text × Session G :=
  match Client.standardInfo e true s with
  | (.error f, s) => (.error (.client f), [], s)
  | (.ok standard, s) =>
    match Client.askWith e Family.info [] s with
    | (.error f, s) => (.error (.client f), [], s)
    | (.ok info, s) =>
      let lines := standardLine standard ++ tokensLine info
      match Client.snapshot e now s with
      | (.error f, s) => (.error (.client f), lines, s)
      | (.ok snapshot, s) => ((Frame.ofSnapshots [snapshot]).mapError .frame, lines, s)

/-- The end of a run: the history gets the rows that were collected. -/
def finish (path : Text) (h : History) :
    Except RunFault (List FrameRow) × Text × Session G → Run G
  | (.error f, lines, s) => { outcome := .error f, output := lines, history := h, session := s }
  | (.ok rows, lines, s) =>
    let all := h.append (rows.map rowOf)
    { outcome := .ok ()
      output := lines ++ writtenLine path (all.getD [])
      history := all
      session := s }

/-- One run, with some room for reading the answers. -/
def run (settings : Settings) (room : Json.Room) (now : Instant) (h : History)
    (s : Session G) : Run G :=
  if settings.vaultAddress.isEmpty then
    { outcome := .error .noVault, output := [], history := h, session := s }
  else
    finish settings.snapshotPath h
      (collect (Endpoint.make room settings.gateway settings.vaultAddress) now s)

/-- A run collects one row, if any. -/
theorem length_of_collect {e : Endpoint} {now : Instant} {s : Session G}
    {rows : List FrameRow} (h : (collect e now s).1 = .ok rows) : rows.length = 1 := by
  simp only [collect] at h
  split at h
  · cases h
  · split at h
    · cases h
    · split at h
      · cases h
      · next snapshot _ _ =>
        cases hx : Frame.ofSnapshots [snapshot] with
        | error f => rw [hx] at h; cases h
        | ok r =>
          rw [hx] at h
          cases h
          simpa using (Frame.ofSnapshots_perm hx).length_eq

/-- A run that fails leaves the history as it is. -/
theorem run_history_of_error {settings : Settings} {room : Json.Room} {now : Instant}
    {h : History} {s : Session G} {f : RunFault}
    (hf : (run settings room now h s).outcome = .error f) :
    (run settings room now h s).history = h := by
  simp only [run] at hf ⊢
  split
  · rfl
  · next hv =>
    rw [if_neg hv] at hf
    -- Only `finish` can change the history, whatever was collected.
    generalize collect (Endpoint.make room settings.gateway settings.vaultAddress) now s = c at hf ⊢
    obtain ⟨outcome, lines, s'⟩ := c
    cases outcome with
    | error g => rfl
    | ok rows => cases hf

/-- A run that succeeds appends one row. -/
theorem run_history_of_ok {settings : Settings} {room : Json.Room} {now : Instant}
    {h : History} {s : Session G} (hf : (run settings room now h s).outcome = .ok ()) :
    ∃ row, (run settings room now h s).history = h.append [row] := by
  simp only [run] at hf ⊢
  split
  · next hv => rw [if_pos hv] at hf; cases hf
  · next hv =>
    rw [if_neg hv] at hf
    cases hc : collect (Endpoint.make room settings.gateway settings.vaultAddress) now s with
    | mk outcome rest =>
      obtain ⟨lines, s'⟩ := rest
      rw [hc] at hf
      cases outcome with
      | error g => cases hf
      | ok rows =>
        -- What was collected is a single row.
        obtain ⟨r, rfl⟩ := List.length_eq_one_iff.mp (length_of_collect (by rw [hc]))
        exact ⟨rowOf r, rfl⟩

end History

end ShareVault
