import ShareVault.Snapshot.Basic

/-! # Frames of snapshots

    A frame lists snapshots in the order of their instants, each with the price
    of a share: the ratio of the totals as doubles, and no number while there
    are no shares. It is made column by column: one order of the positions is
    found from the instants, each column is put into it, and the column of prices
    is the quotient of two columns.

    Instants that are all times of one place are ordered by universal time. Otherwise
    they are compared one with the other, and then clocks of one place are compared by
    what they show. That makes a difference where a place sets its clocks anew.

    Main statements:
    - `ofSnapshots_eq`: the columns stay in step, so that a frame is the list of
      its snapshots in order, each with its own price;
    - `ofSnapshots_perm`: a frame has the rows of its snapshots, none lost and
      none repeated;
    - `ofSnapshots_sorted`: in the order of their instants, if clocks of one place show
      that order.
-/

namespace ShareVault

/-- A snapshot with the price of a share. -/
structure FrameRow where
  snapshot : Snapshot
  sharePrice : Binary64
deriving DecidableEq, Repr

/-- Why snapshots make no frame. -/
inductive FrameFault where
  /-- Some instants have an offset and some have not, so they have no order. -/
  | mixedOffsets
  /-- A total is too large for a double. -/
  | tooLarge
deriving DecidableEq, Repr

namespace Frame

/-- The names of the columns. -/
def columns : List Text := ["timestamp", "total_assets", "total_supply", "share_price"]

/-- Whether some instants are all times of one place. -/
def ofOnePlace (ts : List Instant) : Bool :=
  ts.all fun a => ts.all fun b => a.zone.sharePlace b.zone

/-- The order of instants, which depends on whether they are all times of one place. -/
def inOrder (onePlace : Bool) (a b : Instant) : Bool :=
  if onePlace then a.moment ≤ b.moment else a.atMost b

/-- The order of snapshots among some of them. -/
def before (ss : List Snapshot) (a b : Snapshot) : Bool :=
  inOrder (ofOnePlace (ss.map Snapshot.timestamp)) a.timestamp b.timestamp

/-! ## Columns -/

/-- The columns of a frame of `n` rows that are given. -/
structure Columns (n : Nat) where
  timestamp : Vector Instant n
  totalAssets : Vector Int n
  totalSupply : Vector Int n

/-- A number of shares as a divisor: no number unless it is above zero. -/
def masked (supply : Binary64) : Binary64 := if supply.isPositive then supply else .nan

namespace Columns

/-- The fields of some snapshots, one column for each. -/
def ofSnapshots (ss : List Snapshot) : Columns ss.length where
  timestamp := ⟨(ss.map Snapshot.timestamp).toArray, by simp⟩
  totalAssets := ⟨(ss.map Snapshot.totalAssets).toArray, by simp⟩
  totalSupply := ⟨(ss.map Snapshot.totalSupply).toArray, by simp⟩

variable {n : Nat}

/-- The positions of the rows in the order of the instants. Comparisons of clocks may
    contradict one another; then this is the order in which merging leaves them. -/
def order (c : Columns n) : Vector (Fin n) n where
  toArray := ((List.finRange n).mergeSort fun i j =>
    inOrder (ofOnePlace c.timestamp.toList) c.timestamp[i] c.timestamp[j]).toArray
  size_toArray := by simp

/-- Each column in the order of the instants. -/
def sorted (c : Columns n) : Columns n :=
  let order := c.order
  { timestamp := order.map fun i => c.timestamp[i]
    totalAssets := order.map fun i => c.totalAssets[i]
    totalSupply := order.map fun i => c.totalSupply[i] }

/-- The column of the prices of a share. -/
def prices (c : Columns n) : Vector Binary64 n :=
  let assets := c.totalAssets.map Binary64.ofInt
  let supply := c.totalSupply.map Binary64.ofInt
  Vector.zipWith Binary64.div assets (supply.map masked)

/-- The rows, with one more column for the prices. -/
def rows (c : Columns n) : List FrameRow :=
  let prices := c.prices
  (List.finRange n).map fun i =>
    ⟨⟨c.timestamp[i], c.totalAssets[i], c.totalSupply[i]⟩, prices[i]⟩

end Columns

/-! ## Rows -/

/-- The assets for one share; no number unless there are shares. -/
def sharePrice (assets supply : Int) : Binary64 :=
  Binary64.div (Binary64.ofInt assets) (masked (Binary64.ofInt supply))

/-- The row of a snapshot. -/
def row (s : Snapshot) : FrameRow := ⟨s, sharePrice s.totalAssets s.totalSupply⟩

namespace Columns

/-- The columns of some snapshots have the fields of the snapshot of a position there. -/
theorem row_ofSnapshots (ss : List Snapshot) (i : Fin ss.length) :
    (⟨(ofSnapshots ss).timestamp[i], (ofSnapshots ss).totalAssets[i],
      (ofSnapshots ss).totalSupply[i]⟩ : Snapshot) = ss[i] := by
  simp [ofSnapshots]

/-- A column of the sorted frame is read at the position that the order gives. -/
theorem rows_sorted {n : Nat} (c : Columns n) :
    c.sorted.rows = c.order.toList.map fun i =>
      row ⟨c.timestamp[i], c.totalAssets[i], c.totalSupply[i]⟩ := by
  apply List.ext_getElem
  · simp [rows]
  · intro k _ _
    simp [rows, sorted, prices, row, sharePrice]

/-- The positions in the order of the instants are those of the sorted snapshots. -/
theorem order_ofSnapshots (ss : List Snapshot) :
    ((ofSnapshots ss).order.toList.map fun i => ss[i]) = ss.mergeSort (before ss) := by
  have hpositions : ((List.finRange ss.length).map fun i => ss[i]) = ss := by
    apply List.ext_getElem
    · simp
    · intro k _ _
      simp
  have horder : (ofSnapshots ss).order.toList
      = (List.finRange ss.length).mergeSort fun i j => before ss ss[i] ss[j] := by
    simp [order, before, ofSnapshots]
  rw [horder, List.map_mergeSort (s := before ss) (f := fun i => ss[i]) (fun _ _ _ _ => rfl),
    hpositions]

end Columns

/-- Whether some instants have an offset and some have not. -/
def mixed (ss : List Snapshot) : Bool :=
  ss.any (fun s => s.timestamp.offset.isSome) && ss.any (fun s => s.timestamp.offset.isNone)

/-- Whether the totals of a snapshot are doubles. -/
def fits (s : Snapshot) : Bool :=
  (Binary64.ofInt s.totalAssets).isFinite && (Binary64.ofInt s.totalSupply).isFinite

/-- The frame of some snapshots. -/
def ofSnapshots (ss : List Snapshot) : Except FrameFault (List FrameRow) :=
  if mixed ss then .error .mixedOffsets
  else if ss.all fits then .ok (Columns.ofSnapshots ss).sorted.rows
  else .error .tooLarge

/-- No step on the columns mixes the rows. -/
theorem ofSnapshots_eq (ss : List Snapshot) :
    ofSnapshots ss =
      if mixed ss then .error .mixedOffsets
      else if ss.all fits then .ok ((ss.mergeSort (before ss)).map row)
      else .error .tooLarge := by
  have hrows : (Columns.ofSnapshots ss).sorted.rows = (ss.mergeSort (before ss)).map row := by
    rw [Columns.rows_sorted, ← Columns.order_ofSnapshots, List.map_map]
    apply List.map_congr_left
    intro i _
    rw [Columns.row_ofSnapshots]
    rfl
  rw [ofSnapshots, hrows]

/-- What a frame is, if there is one. -/
theorem ofSnapshots_eq_ok {ss : List Snapshot} {rows : List FrameRow} :
    ofSnapshots ss = .ok rows
      ↔ mixed ss = false ∧ ss.all fits = true ∧ rows = (ss.mergeSort (before ss)).map row := by
  rw [ofSnapshots_eq]
  cases mixed ss <;> cases ss.all fits <;> simp [eq_comm]

/-- The rows of a frame have the snapshots of the list in order. -/
theorem snapshots_of_ofSnapshots {ss : List Snapshot} {rows : List FrameRow}
    (h : ofSnapshots ss = .ok rows) : rows.map FrameRow.snapshot = ss.mergeSort (before ss) := by
  obtain ⟨-, -, rfl⟩ := ofSnapshots_eq_ok.mp h
  rw [List.map_map]
  exact List.map_id _

theorem ofSnapshots_perm {ss : List Snapshot} {rows : List FrameRow}
    (h : ofSnapshots ss = .ok rows) : (rows.map FrameRow.snapshot).Perm ss := by
  rw [snapshots_of_ofSnapshots h]
  exact List.mergeSort_perm ss (before ss)

/-- Clocks of one place show the order of the instants, or all of them are of one place. -/
def ClocksAgree (ss : List Snapshot) : Prop :=
  ofOnePlace (ss.map Snapshot.timestamp) = true ∨
    ∀ a ∈ ss, ∀ b ∈ ss, a.timestamp.zone.sharePlace b.timestamp.zone = true →
      (a.timestamp.clockTime ≤ b.timestamp.clockTime
        ↔ a.timestamp.moment ≤ b.timestamp.moment)

/-- Then snapshots are compared by universal time. -/
theorem before_eq_of_clocksAgree {ss : List Snapshot} (h : ClocksAgree ss) {a b : Snapshot}
    (ha : a ∈ ss) (hb : b ∈ ss) :
    before ss a b = decide (a.timestamp.moment ≤ b.timestamp.moment) := by
  unfold before inOrder
  rcases h with hone | hagree
  · rw [if_pos hone]
  · split
    · rfl
    · unfold Instant.atMost
      split
      · next hplace => exact decide_eq_decide.mpr (hagree a ha b hb hplace)
      · rfl

theorem ofSnapshots_sorted {ss : List Snapshot} {rows : List FrameRow}
    (h : ofSnapshots ss = .ok rows) (hclocks : ClocksAgree ss) :
    (rows.map FrameRow.snapshot).Pairwise fun a b => a.timestamp.moment ≤ b.timestamp.moment := by
  have hsame : ss.mergeSort (before ss)
      = ss.mergeSort fun a b => a.timestamp.moment ≤ b.timestamp.moment := by
    have hmap := List.map_mergeSort (r := before ss)
      (s := fun a b => decide (a.timestamp.moment ≤ b.timestamp.moment)) (f := id) (l := ss)
      fun a ha b hb => before_eq_of_clocksAgree hclocks ha hb
    rwa [List.map_id, List.map_id] at hmap
  rw [snapshots_of_ofSnapshots h, hsame]
  -- The order of moments is transitive and total, which sorting needs.
  refine (List.pairwise_mergeSort ?_ ?_ ss).imp ?_
  · intro a b c hab hbc
    simp only [decide_eq_true_eq] at *
    omega
  · intro a b
    simp only [Bool.or_eq_true, decide_eq_true_eq]
    omega
  · intro a b hab
    simpa using hab

end Frame

end ShareVault
