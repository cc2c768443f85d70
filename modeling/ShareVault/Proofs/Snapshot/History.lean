import ShareVault.Proofs.Snapshot.Visit

/-! # Histories of many runs

    A history outlives the runs that write it. Each run reads it whole and writes it
    whole again, so whether a row stays depends on every run that comes later. Runs fail
    often. What is kept is this: a run that gets its answers adds one row, with the totals
    that it read, and a run that does not get them changes nothing.

    ## Structure
    - `History.after`: the history after a sequence of runs;
    - `History.Records`: the rows of a sequence of runs, by the runs that succeeded;
    - `run_extends`: one run, and from it by induction `after_extends`: many runs.

    Main statement: `History.after_appends`.
-/

namespace ShareVault

namespace History

/-- The history with the rows of some runs at its end. If there are none it is as it
    was, also when there is no history yet. -/
def extend (h : History) : List HistoryRow → History
  | [] => h
  | r :: rows => h.append (r :: rows)

theorem extend_append (h : History) (rows more : List HistoryRow) :
    (h.extend rows).extend more = h.extend (rows ++ more) := by
  cases rows with
  | nil => rfl
  | cons r rows =>
    cases more with
    | nil =>
      rw [List.append_nil]
      rfl
    | cons m more =>
      show some (h.getD [] ++ (r :: rows) ++ m :: more)
        = some (h.getD [] ++ (r :: rows ++ m :: more))
      rw [List.append_assoc]

/-- Without rows the history stays as it is, and with some it has them at its end. -/
theorem extend_eq (h : History) (rows : List HistoryRow) :
    (rows = [] → h.extend rows = h) ∧ (rows ≠ [] → h.extend rows = some (h.getD [] ++ rows)) := by
  cases rows with
  | nil => exact ⟨fun _ => rfl, fun hne => absurd rfl hne⟩
  | cons r rows => exact ⟨fun hnil => absurd hnil (List.cons_ne_nil r rows), fun _ => rfl⟩

theorem getD_extend (h : History) (rows : List HistoryRow) :
    (h.extend rows).getD [] = h.getD [] ++ rows := by
  cases rows with
  | nil => exact (List.append_nil _).symm
  | cons r rows => rfl

variable {path : Text} {G : Type} [Gateway G]

/-- The history after some visits. -/
def after (h : History) : List (Visit path G) → History
  | [] => h
  | v :: vs => after (v.run h).history vs

theorem after_append (h : History) (first second : List (Visit path G)) :
    h.after (first ++ second) = (h.after first).after second := by
  induction first generalizing h with
  | nil => rfl
  | cons v first ih => exact ih (v.run h).history

/-- The rows of some visits: one for each of those that succeed, in their order, and none
    for those that fail. -/
inductive Records : List (Visit path G) → List HistoryRow → Prop where
  | nil : Records [] []
  /-- The visit fails. -/
  | failed {v : Visit path G} {vs : List (Visit path G)} {rows : List HistoryRow} {f : RunFault}
      (houtcome : v.outcome = .error f) (hlater : Records vs rows) : Records (v :: vs) rows
  /-- The visit succeeds, and the row shows the totals that it has read. -/
  | succeeded {v : Visit path G} {vs : List (Visit path G)} {r : HistoryRow}
      {rows : List HistoryRow} {t : Totals} (houtcome : v.outcome = .ok ()) (hreads : v.Reads t)
      (hshows : r.Shows v.now t) (hlater : Records vs rows) : Records (v :: vs) (r :: rows)

/-- One visit adds its row to the history, or leaves the history as it is. -/
theorem run_extends (v : Visit path G) (h : History) :
    ∃ rows, Records [v] rows ∧ (v.run h).history = h.extend rows := by
  cases houtcome : v.outcome with
  | error f =>
    have hrun : (v.run h).outcome = .error f := (v.outcome_run h).trans houtcome
    exact ⟨[], .failed houtcome .nil, run_history_of_error hrun⟩
  | ok done =>
    obtain ⟨t, hreads⟩ := v.outcome_eq_ok_iff.mp houtcome
    exact ⟨[v.rowFor t], .succeeded houtcome hreads (v.shows_rowFor t) .nil,
      (Visit.run_of_reads hreads h).2⟩

theorem Records.append {vs ws : List (Visit path G)} {rows more : List HistoryRow}
    (h : Records vs rows) (h' : Records ws more) : Records (vs ++ ws) (rows ++ more) := by
  induction h with
  | nil => exact h'
  | failed houtcome _ ih => exact .failed houtcome ih
  | succeeded houtcome hreads hshows _ ih => exact .succeeded houtcome hreads hshows ih

/-- A visit that fails has no row. -/
theorem records_cons_of_fault {v : Visit path G} {vs : List (Visit path G)}
    {rows : List HistoryRow} {f : RunFault} (h : v.outcome = .error f) :
    Records (v :: vs) rows ↔ Records vs rows := by
  constructor
  · intro hrecords
    cases hrecords with
    | failed _ hlater => exact hlater
    | succeeded houtcome _ _ _ =>
      rw [h] at houtcome
      cases houtcome
  · exact .failed h

/-- A visit that reads totals has a row for them. -/
theorem records_cons_of_reads {v : Visit path G} {vs : List (Visit path G)}
    {rows : List HistoryRow} {t : Totals} (h : v.Reads t) :
    Records (v :: vs) rows
      ↔ ∃ r later, rows = r :: later ∧ r.Shows v.now t ∧ Records vs later := by
  have hok : v.outcome = .ok () := v.outcome_eq_ok_iff.mpr ⟨t, h⟩
  constructor
  · intro hrecords
    cases hrecords with
    | failed houtcome _ =>
      rw [hok] at houtcome
      cases houtcome
    | @succeeded _ _ r later t' _ hreads hshows hlater =>
      rw [hreads.unique h] at hshows
      exact ⟨r, later, rfl, hshows, hlater⟩
  · intro hrow
    obtain ⟨r, later, rfl, hshows, hlater⟩ := hrow
    exact .succeeded hok h hshows hlater

theorem records_nil_iff {rows : List HistoryRow} :
    Records ([] : List (Visit path G)) rows ↔ rows = [] := by
  constructor
  · intro h
    cases h
    rfl
  · intro h
    rw [h]
    exact .nil

/-- Some visits add their rows, and nothing else changes. -/
theorem after_extends (h : History) (vs : List (Visit path G)) :
    ∃ rows, Records vs rows ∧ h.after vs = h.extend rows := by
  -- By the visits: the rest of them finds the history that the first one leaves.
  induction vs generalizing h with
  | nil => exact ⟨[], .nil, rfl⟩
  | cons v vs ih =>
    obtain ⟨first, hfirst, hrun⟩ := run_extends v h
    obtain ⟨rows, hrows, hafter⟩ := ih (v.run h).history
    refine ⟨first ++ rows, hfirst.append hrows, ?_⟩
    show (v.run h).history.after vs = _
    rw [hafter, hrun, extend_append]

/-- Whatever the gateway does, and whatever the runs are configured with: a run succeeds
    exactly if it gets its four answers. After any sequence of runs the history is what it
    was, followed by one row for each run that succeeded, in the order of the runs and
    with the numerals of the totals that the run read. A history that does not exist is
    not created by runs that fail. At any time before, what there was is the beginning of
    what there is now, and a run that fails leaves the history as it is. -/
theorem after_appends (h : History) (vs : List (Visit path G)) :
    (∀ v ∈ vs, v.outcome = .ok () ↔ ∃ t, v.Reads t)
    ∧ (∃ rows, Records vs rows ∧ (rows = [] → h.after vs = h)
      ∧ (rows ≠ [] → h.after vs = some (h.getD [] ++ rows)))
    ∧ ∀ earlier later, vs = earlier ++ later →
      (h.after earlier).getD [] <+: (h.after vs).getD []
      ∧ ∀ v rest, later = v :: rest → ∀ f, v.outcome = .error f →
        h.after (earlier ++ [v]) = h.after earlier := by
  obtain ⟨all, hall, hafterAll⟩ := after_extends h vs
  refine ⟨fun v _ => v.outcome_eq_ok_iff, ⟨all, hall, ?_⟩, ?_⟩
  · rw [hafterAll]
    exact h.extend_eq all
  intro earlier later hsplit
  constructor
  · -- The later runs find what the earlier ones have left, and only add to it.
    obtain ⟨rows, -, hafter⟩ := after_extends (h.after earlier) later
    rw [hsplit, after_append, hafter, getD_extend]
    exact List.prefix_append _ _
  · intro v rest _ f houtcome
    rw [after_append]
    exact run_history_of_error ((v.outcome_run (h.after earlier)).trans houtcome)

/-! ### A sample -/

/-- Settings with the gateway, and with an address of the vault or none. -/
def sampleSettings (address : Text) : Settings :=
  { Settings.default with lcdUrl := gatewayText, vaultAddress := address }

/-- A visit of a vault through a gateway with these turns to come. -/
def sampleVisit (vault : Vault KeeperList) (turns : List Turn) (address : Text) :
    Visit Settings.default.snapshotPath (Shared KeeperList) :=
  ⟨sampleSettings address, rfl, .unlimited, Client.newYear, .start ⟨vault, turns⟩⟩

/-- An attempt that is dropped. -/
def refusedTurn : Turn := ⟨[], some ⟨"ConnectError", "refused"⟩⟩

/-- A deposit before the first answer, an attempt that is dropped, and a yield before
    the answer to the third request. -/
def busyTurns : List Turn :=
  [⟨[.command (.deposit 1000 none) "alice" 1000], none⟩, refusedTurn, ⟨[], none⟩,
    ⟨[.outside 101], none⟩, ⟨[], none⟩]

theorem drops_busyTurns (vault : Vault KeeperList) {k : Nat} (hk : k < 4) :
    Turn.drops ((Shared.mk vault busyTurns).ahead k).coming < Session.maxAttempts := by
  -- What is still to come does not depend on the vault.
  rcases k with _ | _ | _ | _ | k
  · show Turn.drops busyTurns < _
    decide
  · show Turn.drops (Turn.left busyTurns) < _
    decide
  · show Turn.drops (Turn.left (Turn.left busyTurns)) < _
    decide
  · show Turn.drops (Turn.left (Turn.left (Turn.left busyTurns))) < _
    decide
  · omega

/-- A new vault lets a visit read what the turns have made of its totals. -/
theorem exists_busy_visit :
    ∃ vault, (sampleVisit vault busyTurns "osmo1vault").Reads ⟨1098, 997⟩ := by
  obtain ⟨vault, hnew, htokens, hassets, hsupply⟩ := Vault.exists_isNew_of_createSample
    (p := fun vault => vault.info.toJson.isWellFormed = true
      ∧ ((Shared.mk vault busyTurns).ahead 2).atAnswer.ledger.totalAssets = 1098
      ∧ ((Shared.mk vault busyTurns).ahead 3).atAnswer.ledger.totalSupply = 997)
    (by decide +kernel)
  have hreach : vault.Reachable := .of_isNew hnew
  have hfits : ((Shared.mk vault busyTurns).ahead 2).atAnswer.Fits .totalAssets := by
    rw [Question.isTotal_totalAssets.fits_iff, hassets]
    decide +kernel
  have hfits' : ((Shared.mk vault busyTurns).ahead 3).atAnswer.Fits .totalSupply := by
    rw [Question.isTotal_totalSupply.fits_iff, hsupply]
    decide +kernel
  have hgateway : (sampleSettings "osmo1vault").gateway = gatewayText := by decide
  have hconfigured : Text.ofString "osmo1vault" ≠ [] := by decide
  have hroom : (Text.ofString "osmo1vault").length + Client.routeRoom ≤ Address.maxLength := by
    decide
  obtain ⟨⟨assets, supply⟩, hreads, hread, hread'⟩ :=
    Visit.reads_inUse (v := sampleVisit vault busyTurns "osmo1vault") hreach htokens hgateway
      rfl hconfigured isAlphanumeric_osmo1vault hroom (fun _ hk => drops_busyTurns vault hk)
      hfits hfits'
  have hassetsEq : assets = 1098 := by exact_mod_cast hread.trans hassets
  have hsupplyEq : supply = 997 := by exact_mod_cast hread'.trans hsupply
  rw [hassetsEq, hsupplyEq] at hreads
  exact ⟨vault, hreads⟩

/-- A run that the transport drops and one without an address leave no history behind.
    The run after them begins it with the totals that it has read, and the row stays when
    the transport fails once more. -/
theorem after_appends_outages : ∃ lost unconfigured busy :
      Visit Settings.default.snapshotPath (Shared KeeperList),
    (∃ f, lost.outcome = .error f) ∧ unconfigured.outcome = .error .noVault
    ∧ busy.Reads ⟨1098, 997⟩
    ∧ after none [lost, unconfigured] = none
    ∧ ∃ r, r.Shows Client.newYear ⟨1098, 997⟩
      ∧ after none [lost, unconfigured, busy, lost] = some [r] := by
  obtain ⟨vault, hreads⟩ := exists_busy_visit
  have hdrops : Session.maxAttempts ≤ Turn.drops (List.replicate 5 refusedTurn) := by decide
  have hlost : ∃ f, (sampleVisit vault (List.replicate 5 refusedTurn) "osmo1vault").outcome
      = .error f := Visit.exists_fault_of_not_reads (Visit.not_reads_of_lost hdrops)
  have hunconfigured : (sampleVisit vault [] "").outcome = .error .noVault := rfl
  refine ⟨_, _, _, hlost, hunconfigured, hreads, ?_, ?_⟩
  · obtain ⟨f, hlost⟩ := hlost
    obtain ⟨-, ⟨rows, hrecords, hsame, -⟩, -⟩ :=
      after_appends none [sampleVisit vault (List.replicate 5 refusedTurn) "osmo1vault",
        sampleVisit vault [] ""]
    rw [records_cons_of_fault hlost, records_cons_of_fault hunconfigured, records_nil_iff]
      at hrecords
    exact hsame hrecords
  · -- Of the four runs the third one alone has a row.
    obtain ⟨f, hlost⟩ := hlost
    obtain ⟨-, ⟨rows, hrecords, -, hmore⟩, -⟩ :=
      after_appends none [sampleVisit vault (List.replicate 5 refusedTurn) "osmo1vault",
        sampleVisit vault [] "", sampleVisit vault busyTurns "osmo1vault",
        sampleVisit vault (List.replicate 5 refusedTurn) "osmo1vault"]
    rw [records_cons_of_fault hlost, records_cons_of_fault hunconfigured,
      records_cons_of_reads hreads] at hrecords
    obtain ⟨r, later, rfl, hshows, hlater⟩ := hrecords
    rw [records_cons_of_fault hlost, records_nil_iff] at hlater
    rw [hlater] at hmore
    exact ⟨r, hshows, hmore (List.cons_ne_nil r [])⟩

end History

end ShareVault
