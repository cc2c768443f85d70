import ShareVault.Proofs.Gateway.InUse
import ShareVault.Proofs.Message.WideInteger
import ShareVault.Proofs.Snapshot.Frame
import ShareVault.Snapshot.History

/-! # One run that writes the history

    A run asks a vault four questions, one after the other, and touches the history only
    when it has all the answers. The gateway may drop each attempt, refuse it, or answer
    it by what nobody can read: then the run fails, and all that is left of it is what it
    printed.

    ## Structure
    - `Client.GivesTotal`: the data that a total is read from;
    - `Visit`: one run, and `Visit.Reads`: the answers that it needs;
    - `HistoryRow.Shows`: the row that is written for totals.

    Main statements:
    - `Visit.outcome_eq_ok_iff`: a run succeeds exactly if it gets its answers;
    - `Visit.run_of_reads`: and then adds one row with the totals that it has read;
    - `Visit.reads_inUse`: a vault in use lets it read its totals.
-/

namespace ShareVault

/-! ## Totals -/

theorem WideWritten.unique {n m : Nat} {v : Json} (hn : WideWritten n v) (hm : WideWritten m v) :
    n = m := by
  cases hn with
  | integer =>
    cases hm
    rfl
  | numeral _ _ _ hvalue =>
    cases hm with
    | numeral _ _ _ hvalue' => exact hvalue.symm.trans hvalue'

namespace Client

section Totals

variable {G : Type} [Gateway G] {e : Endpoint} {s s' : Session G}

/-- The request for a total gets data that writes the amount `n`, as an integer or as a
    numeral, and ends the session in `s'`. -/
def GivesTotal (e : Endpoint) (w : Variant) (s : Session G) (n : Nat) (s' : Session G) : Prop :=
  ∃ data, Session.fetch e w.bareRoute s = (.ok data, s') ∧ WideWritten n data ∧ n < twoTo 128

theorem GivesTotal.fits {w : Variant} {n : Nat} (h : GivesTotal e w s n s') : n < twoTo 128 := by
  obtain ⟨-, -, -, hfits⟩ := h
  exact hfits

theorem GivesTotal.unique {w : Variant} {n m : Nat} {s'' : Session G}
    (hn : GivesTotal e w s n s') (hm : GivesTotal e w s m s'') : n = m ∧ s' = s'' := by
  obtain ⟨data, hfetch, hwritten, -⟩ := hn
  obtain ⟨data', hfetch', hwritten', -⟩ := hm
  rw [hfetch] at hfetch'
  obtain ⟨hdata, hs⟩ := Prod.mk.inj hfetch'
  rw [← Except.ok.inj hdata] at hwritten'
  exact ⟨hwritten.unique hwritten', hs⟩

/-- A total that a client gets is the amount that the data writes. -/
theorem askWith_total_eq_ok_iff {q : Question} {w : Variant} {total : Ledger → Int}
    (hq : q.IsTotal w total) {x : Value} :
    askWith e w [] s = (.ok x, s') ↔ ∃ n : Nat, GivesTotal e w s n s' ∧ x = .int n := by
  have hresponse : ∀ data, responseOf w.bare data = .ok x
      ↔ ∃ n : Nat, WideWritten n data ∧ n < twoTo 128 ∧ x = .int n := by
    intro data
    have hload : w.bare.decodeResponse data = .ok x
        ↔ ∃ n : Nat, WideWritten n data ∧ n < twoTo 128 ∧ x = .int n :=
      (Message.decodeResponse_eq_ok hq.returns).trans Shape.load_wide_eq_ok
    rw [← hload]
    exact Except.mapError_eq_ok
  rw [hq.askWith_eq, Session.check_eq_ok_iff]
  constructor
  · intro h
    obtain ⟨data, hfetch, hx⟩ := h
    obtain ⟨n, hwritten, hfits, rfl⟩ := (hresponse data).mp hx
    exact ⟨n, ⟨data, hfetch, hwritten, hfits⟩, rfl⟩
  · intro h
    obtain ⟨n, ⟨data, hfetch, hwritten, hfits⟩, rfl⟩ := h
    exact ⟨data, hfetch, (hresponse data).mpr ⟨n, hwritten, hfits, rfl⟩⟩

end Totals

end Client

/-! ## One run -/

/-- The totals of a vault as two amounts. -/
structure Totals where
  assets : Nat
  supply : Nat

/-- One run that writes the history at a path: what it is configured with, the room that
    it has for reading, when it takes place, and the gateway as it finds it. -/
structure Visit (path : Text) (G : Type) where
  settings : Settings
  writes : settings.snapshotPath = path
  room : Json.Room
  now : Instant
  session : Session G

/-- A row is the one that a run writes for totals: each as its numeral, so that nothing
    is rounded, and the price of a share that the two make. -/
structure HistoryRow.Shows (r : HistoryRow) (now : Instant) (t : Totals) : Prop where
  timestamp : r.timestamp = now
  assets : Text.IsNumeral t.assets r.totalAssets
  supply : Text.IsNumeral t.supply r.totalSupply
  price : r.sharePrice = Frame.sharePrice t.assets t.supply

namespace Visit

variable {path : Text} {G : Type} [Gateway G]

/-- What the vault of a visit is asked through. -/
def endpoint (v : Visit path G) : Endpoint :=
  .make v.room v.settings.gateway v.settings.vaultAddress

/-- The visit as a run. -/
def run (v : Visit path G) (h : History) : History.Run G :=
  History.run v.settings v.room v.now h v.session

/-- What comes of a visit, which is the same whatever the history has. -/
def outcome (v : Visit path G) : Except RunFault Unit := (v.run none).outcome

/-- A visit of a vault that is configured gets four answers in a row: the standard that the
    vault follows, what it says about itself, and the two totals. -/
inductive Reads (v : Visit path G) (t : Totals) : Prop where
  | intro {standard info : Value} {s₁ s₂ s₃ s₄ : Session G}
      (configured : v.settings.vaultAddress ≠ [])
      (standardInfo : Client.standardInfo v.endpoint true v.session = (.ok standard, s₁))
      (vaultInfo : Client.askWith v.endpoint Family.info [] s₁ = (.ok info, s₂))
      (assets : Client.GivesTotal v.endpoint Family.totalAssets s₂ t.assets s₃)
      (supply : Client.GivesTotal v.endpoint Family.totalSupply s₃ t.supply s₄)

variable {v : Visit path G} {t : Totals}

/-- A visit reads the totals once. -/
theorem Reads.unique {t' : Totals} (h : v.Reads t) (h' : v.Reads t') : t = t' := by
  obtain ⟨-, hstandard, hinfo, hassets, hsupply⟩ := h
  obtain ⟨-, hstandard', hinfo', hassets', hsupply'⟩ := h'
  rw [hstandard] at hstandard'
  obtain ⟨-, rfl⟩ := Prod.mk.inj hstandard'
  rw [hinfo] at hinfo'
  obtain ⟨-, rfl⟩ := Prod.mk.inj hinfo'
  obtain ⟨ha, rfl⟩ := hassets.unique hassets'
  obtain ⟨hs, -⟩ := hsupply.unique hsupply'
  cases t
  cases t'
  simp only at ha hs
  rw [ha, hs]

end Visit

namespace Client

variable {G : Type} [Gateway G] {e : Endpoint} {now : Instant} {s : Session G}

/-- A snapshot has the totals that are given, the assets first. -/
theorem snapshot_eq_ok_iff {found : Snapshot} {s'' : Session G} :
    snapshot e now s = (.ok found, s'')
      ↔ ∃ (t : Totals) (s' : Session G), GivesTotal e Family.totalAssets s t.assets s'
        ∧ GivesTotal e Family.totalSupply s' t.supply s'' ∧ found = ⟨now, t.assets, t.supply⟩ := by
  constructor
  · intro h
    unfold snapshot at h
    split at h
    · cases h
    next assets s' hassets =>
    split at h
    · cases h
    next supply s₂ hsupply =>
    obtain ⟨n, hn, rfl⟩ := (askWith_total_eq_ok_iff Question.isTotal_totalAssets).mp hassets
    obtain ⟨m, hm, rfl⟩ := (askWith_total_eq_ok_iff Question.isTotal_totalSupply).mp hsupply
    obtain ⟨hfound, rfl⟩ := Prod.mk.inj h
    exact ⟨⟨n, m⟩, s', hn, hm, (Except.ok.inj hfound).symm⟩
  · intro h
    obtain ⟨t, s', hassets, hsupply, rfl⟩ := h
    have hassets' : askWith e Family.totalAssets [] s = (.ok (.int t.assets), s') :=
      (askWith_total_eq_ok_iff Question.isTotal_totalAssets).mpr ⟨_, hassets, rfl⟩
    have hsupply' : askWith e Family.totalSupply [] s' = (.ok (.int t.supply), s'') :=
      (askWith_total_eq_ok_iff Question.isTotal_totalSupply).mpr ⟨_, hsupply, rfl⟩
    unfold snapshot
    simp only [hassets', hsupply']
    rfl

end Client

namespace Frame

theorem ofSnapshots_singleton {s : Snapshot} (h : s.HasAmounts) :
    ofSnapshots [s] = .ok [row s] := by
  -- One instant is not mixed with another.
  have hzone : mixed [s] = false := by
    rw [mixed_eq_false_iff]
    cases hoffset : s.timestamp.offset with
    | none => exact .inl (by simp [hoffset])
    | some seconds => exact .inr (by simp [hoffset])
  have hfits : [s].all fits = true := by
    simp only [List.all_cons, fits_of_hasAmounts h, List.all_nil, Bool.and_self]
  exact ofSnapshots_eq_ok.mpr ⟨hzone, hfits, by simp⟩

end Frame

namespace Visit

variable {path : Text} {G : Type} [Gateway G] {v : Visit path G} {t : Totals}

/-- The snapshot that a visit takes when it reads these totals. -/
def snapshotOf (v : Visit path G) (t : Totals) : Snapshot := ⟨v.now, t.assets, t.supply⟩

omit [Gateway G] in
theorem hasAmounts_snapshotOf (v : Visit path G) (hassets : t.assets < twoTo 128)
    (hsupply : t.supply < twoTo 128) : (v.snapshotOf t).HasAmounts :=
  ⟨⟨Int.natCast_nonneg _, Int.ofNat_lt.mpr hassets⟩,
    Int.natCast_nonneg _, Int.ofNat_lt.mpr hsupply⟩

/-- What a visit collects, it has read. -/
theorem collect_eq_ok_iff (hconfigured : v.settings.vaultAddress ≠ []) {rows : List FrameRow} :
    (History.collect v.endpoint v.now v.session).1 = .ok rows
      ↔ ∃ t, v.Reads t ∧ rows = [Frame.row (v.snapshotOf t)] := by
  constructor
  · intro h
    -- A run may end at each of its questions, and rows come out of the last one only.
    unfold History.collect at h
    split at h
    · cases h
    next standard s₁ hstandard =>
    split at h
    · cases h
    next info s₂ hinfo =>
    split at h
    · cases h
    next found s₄ hfound =>
    obtain ⟨t, s₃, hassets, hsupply, rfl⟩ := Client.snapshot_eq_ok_iff.mp hfound
    have hamounts := hasAmounts_snapshotOf v hassets.fits hsupply.fits
    refine ⟨t, ⟨hconfigured, hstandard, hinfo, hassets, hsupply⟩, ?_⟩
    have hframe := Frame.ofSnapshots_singleton hamounts
    unfold snapshotOf at hframe
    rw [hframe] at h
    exact (Except.ok.inj h).symm
  · intro h
    obtain ⟨t, ⟨-, hstandard, hinfo, hassets, hsupply⟩, rfl⟩ := h
    have hamounts := hasAmounts_snapshotOf v hassets.fits hsupply.fits
    have hsnapshot : v.snapshotOf t = ⟨v.now, t.assets, t.supply⟩ := rfl
    have hfound := Client.snapshot_eq_ok_iff.mpr ⟨t, _, hassets, hsupply, hsnapshot⟩
    unfold History.collect
    simp only [hstandard, hinfo, hfound, Frame.ofSnapshots_singleton hamounts]
    rfl

/-- Without an address a visit fails before it asks anything. -/
theorem run_of_unconfigured (hempty : v.settings.vaultAddress = []) (h : History) :
    v.run h = { outcome := .error .noVault, output := [], history := h, session := v.session } := by
  unfold run History.run
  rw [hempty]
  rfl

theorem run_of_configured (hconfigured : v.settings.vaultAddress ≠ []) (h : History) :
    v.run h = History.finish v.settings.snapshotPath h
      (History.collect v.endpoint v.now v.session) := by
  have hnonempty : v.settings.vaultAddress.isEmpty = false :=
    List.isEmpty_eq_false_iff.mpr hconfigured
  unfold run History.run
  rw [hnonempty]
  rfl

/-- The history does not decide what comes of a visit. -/
theorem outcome_run (v : Visit path G) (h : History) : (v.run h).outcome = v.outcome := by
  unfold outcome
  by_cases hconfigured : v.settings.vaultAddress = []
  · rw [run_of_unconfigured hconfigured, run_of_unconfigured hconfigured]
  · rw [run_of_configured hconfigured, run_of_configured hconfigured]
    -- What is collected is settled before the history is looked at.
    generalize History.collect v.endpoint v.now v.session = c
    obtain ⟨rows | f, lines, s⟩ := c
    · rfl
    · rfl

/-- The row that a visit writes when it reads these totals. -/
def rowFor (v : Visit path G) (t : Totals) : HistoryRow :=
  History.rowOf (Frame.row (v.snapshotOf t))

omit [Gateway G] in
theorem shows_rowFor (v : Visit path G) (t : Totals) : (v.rowFor t).Shows v.now t :=
  ⟨rfl, Text.isNumeral_decimal t.assets, Text.isNumeral_decimal t.supply, rfl⟩

/-- A visit that reads totals adds the row for them. -/
theorem run_of_reads (hreads : v.Reads t) (h : History) :
    (v.run h).outcome = .ok () ∧ (v.run h).history = h.append [v.rowFor t] := by
  have hconfigured : v.settings.vaultAddress ≠ [] := by
    obtain ⟨hconfigured, -, -, -, -⟩ := hreads
    exact hconfigured
  have hcollect := (collect_eq_ok_iff hconfigured).mpr ⟨t, hreads, rfl⟩
  rw [run_of_configured hconfigured]
  generalize History.collect v.endpoint v.now v.session = c at hcollect ⊢
  obtain ⟨outcome, lines, s⟩ := c
  rw [show outcome = _ from hcollect]
  exact ⟨rfl, rfl⟩

/-- A visit succeeds exactly if it gets all its answers. -/
theorem outcome_eq_ok_iff (v : Visit path G) : v.outcome = .ok () ↔ ∃ t, v.Reads t := by
  constructor
  · intro hok
    unfold outcome at hok
    by_cases hconfigured : v.settings.vaultAddress = []
    · rw [run_of_unconfigured hconfigured] at hok
      cases hok
    · rw [run_of_configured hconfigured] at hok
      cases hcollect : (History.collect v.endpoint v.now v.session).1 with
      | ok rows =>
        obtain ⟨t, hreads, -⟩ := (collect_eq_ok_iff hconfigured).mp hcollect
        exact ⟨t, hreads⟩
      | error f =>
        generalize History.collect v.endpoint v.now v.session = c at hok hcollect
        obtain ⟨outcome, lines, s⟩ := c
        rw [show outcome = _ from hcollect] at hok
        cases hok
  · intro h
    obtain ⟨t, hreads⟩ := h
    exact (run_of_reads hreads none).1

/-- A visit that cannot read the totals fails. -/
theorem exists_fault_of_not_reads (h : ∀ t, ¬ v.Reads t) : ∃ f, v.outcome = .error f := by
  cases houtcome : v.outcome with
  | error f => exact ⟨f, rfl⟩
  | ok done =>
    obtain ⟨t, hreads⟩ := v.outcome_eq_ok_iff.mp houtcome
    exact absurd hreads (h t)

end Visit

/-! ## Vaults in use -/

/-- A client gets a total of a vault in use as it is when the request is answered. -/
theorem Client.givesTotal_inUse {H : Type} [Handler H] {s : Session (Shared H)}
    {i : StandardInfo} (hpresents : s.gateway.vault.Presents i) {q : Question} {w : Variant}
    {total : Ledger → Int} (hq : q.IsTotal w total) {contract : Text}
    (hcontract : ∀ c ∈ contract, isAlphanumeric c = true)
    (hroom : contract.length + routeRoom ≤ Address.maxLength)
    (hdrops : Turn.drops s.gateway.coming < Session.maxAttempts)
    (hfits : s.gateway.atAnswer.Fits q) :
    ∃ (n : Nat) (s' : Session (Shared H)), GivesTotal (.behind contract) w s n s'
      ∧ (n : Int) = total s.gateway.atAnswer.ledger ∧ s'.gateway = s.gateway.afterAnswer := by
  obtain ⟨payload, hquestions⟩ := (presents_atAnswer hpresents).questions
  obtain ⟨s', hasked, hgateway⟩ := hq.askWith_behind hquestions hcontract hroom hdrops hfits
  obtain ⟨n, hn, hvalue⟩ := (askWith_total_eq_ok_iff hq).mp hasked
  exact ⟨n, s', hn, (Value.int.inj hvalue).symm, hgateway⟩

/-- A vault says the same about itself before each request. -/
theorem Shared.presents_ahead {H : Type} [Handler H] {g : Shared H} {i : StandardInfo}
    (h : g.vault.Presents i) (requests : Nat) : (g.ahead requests).vault.Presents i := by
  induction requests with
  | zero => exact h
  | succ k ih => exact ih.after _

namespace Visit

variable {path : Text} {H : Type} [Handler H] {v : Visit path (Shared H)}

/-- A run gets its answers from a vault in use whose address is short and whose tokens
    can be written, if it reads to any depth, none of its four requests is dropped too
    often and both totals fit.
    It reads the assets when the third request is answered, and the supply when the fourth
    one is. -/
theorem reads_inUse (hreach : v.session.gateway.vault.Reachable)
    (htokens : v.session.gateway.vault.info.toJson.isWellFormed = true)
    (hgateway : v.settings.gateway = gatewayText) (hdepth : v.room = .unlimited)
    (hconfigured : v.settings.vaultAddress ≠ [])
    (hcontract : ∀ c ∈ v.settings.vaultAddress, isAlphanumeric c = true)
    (hroom : v.settings.vaultAddress.length + Client.routeRoom ≤ Address.maxLength)
    (hdrops : ∀ k < 4, Turn.drops (v.session.gateway.ahead k).coming < Session.maxAttempts)
    (hassets : (v.session.gateway.ahead 2).atAnswer.Fits .totalAssets)
    (hsupply : (v.session.gateway.ahead 3).atAnswer.Fits .totalSupply) :
    ∃ t, v.Reads t
      ∧ (t.assets : Int) = (v.session.gateway.ahead 2).atAnswer.ledger.totalAssets
      ∧ (t.supply : Int) = (v.session.gateway.ahead 3).atAnswer.ledger.totalSupply := by
  have hendpoint : v.endpoint = .behind v.settings.vaultAddress := by
    unfold endpoint Endpoint.behind
    rw [hgateway, hdepth]
  obtain ⟨i, hpresents⟩ := Vault.presents_of_reachable hreach htokens
  -- Each request takes its turns, and the next one finds the gateway that it leaves.
  have hahead := fun k => Shared.presents_ahead hpresents k
  obtain ⟨s₁, hstandard, hfirst⟩ :=
    Client.standardInfo_inUse (hahead 0) hcontract hroom (hdrops 0 (by decide))
  have hgateway₁ : s₁.gateway = v.session.gateway.ahead 1 := hfirst
  have hpresents₁ := hahead 1
  have hdrops₁ := hdrops 1 (by decide)
  rw [← hgateway₁] at hpresents₁ hdrops₁
  obtain ⟨s₂, hinfo, hsecond⟩ := Client.info_inUse hpresents₁ hcontract hroom hdrops₁
  have hgateway₂ : s₂.gateway = v.session.gateway.ahead 2 := by
    rw [hsecond, hgateway₁]
    rfl
  have hpresents₂ := hahead 2
  have hdrops₂ := hdrops 2 (by decide)
  rw [← hgateway₂] at hpresents₂ hdrops₂ hassets
  obtain ⟨n, s₃, hn, hassetsEq, hthird⟩ := Client.givesTotal_inUse hpresents₂
    Question.isTotal_totalAssets hcontract hroom hdrops₂ hassets
  have hgateway₃ : s₃.gateway = v.session.gateway.ahead 3 := by
    rw [hthird, hgateway₂]
    rfl
  have hpresents₃ := hahead 3
  have hdrops₃ := hdrops 3 (by decide)
  rw [← hgateway₃] at hpresents₃ hdrops₃ hsupply
  obtain ⟨m, s₄, hm, hsupplyEq, -⟩ := Client.givesTotal_inUse hpresents₃
    Question.isTotal_totalSupply hcontract hroom hdrops₃ hsupply
  rw [← hendpoint] at hstandard hinfo hn hm
  rw [hgateway₂] at hassetsEq
  rw [hgateway₃] at hsupplyEq
  exact ⟨⟨n, m⟩, ⟨hconfigured, hstandard, hinfo, hn, hm⟩, hassetsEq, hsupplyEq⟩

/-- A run that is dropped in all attempts of its first request reads nothing. -/
theorem not_reads_of_lost (hlost : Session.maxAttempts ≤ Turn.drops v.session.gateway.coming)
    (t : Totals) : ¬ v.Reads t := by
  intro hreads
  obtain ⟨-, hstandard, -, -, -⟩ := hreads
  obtain ⟨f, s', hfault⟩ := Client.standardInfo_lost hlost v.endpoint
  rw [hfault] at hstandard
  cases hstandard

end Visit

end ShareVault
