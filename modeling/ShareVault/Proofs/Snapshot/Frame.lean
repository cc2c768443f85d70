import ShareVault.Proofs.Number.Nearest
import ShareVault.Snapshot.Frame

/-! # Frames of amounts

    The totals of a vault are amounts, integers of 128 bits. No such integer is
    too large for a double, so snapshots of amounts always make a frame, if only
    their instants can be compared. Its rows are the snapshots themselves, and
    rounding stops at the price: the totals beside it are the exact ones.

    The rows are in the order of the instants where clocks of one place show that
    order. Beside other clocks, those of a place that sets its clocks back may not.

    ## Structure
    - when there is an order of the instants, and when clocks show it;
    - amounts as doubles: finite, and above zero unless the amount is zero;
    - the price of a row against the exact ratio of its totals.

    Main statements: `ofSnapshots_sorts_and_prices`, and `ofSnapshots_acrossFallBack` for
    a night on which clocks are set back.
-/

namespace ShareVault

/-- Both totals are amounts. -/
def Snapshot.HasAmounts (s : Snapshot) : Prop :=
  (0 ≤ s.totalAssets ∧ s.totalAssets < twoTo 128) ∧ 0 ≤ s.totalSupply ∧ s.totalSupply < twoTo 128

instance (s : Snapshot) : Decidable s.HasAmounts := inferInstanceAs (Decidable (_ ∧ _))

/-- The price in a row goes with the totals in it. -/
structure FrameRow.IsPriced (r : FrameRow) : Prop where
  /-- The price comes from the totals of this row. -/
  own : r.sharePrice = Frame.sharePrice r.snapshot.totalAssets r.snapshot.totalSupply
  /-- It is missing when there are no shares, and only then. -/
  nan_iff : r.sharePrice = .nan ↔ r.snapshot.totalSupply = 0
  /-- Otherwise it is a number, not negative and as near to the ratio of the
      totals as three roundings leave it. -/
  within : r.snapshot.totalSupply ≠ 0 →
    Binary64.Within (4 * Binary64.halfUnit) r.sharePrice
      (r.snapshot.totalAssets / r.snapshot.totalSupply)

namespace Frame

/-! ### Instants that can be compared -/

/-- Instants are mixed unless all of them have an offset or none has. -/
theorem mixed_eq_false_iff (ss : List Snapshot) :
    mixed ss = false
      ↔ (∀ s ∈ ss, s.timestamp.offset.isNone) ∨ ∀ s ∈ ss, s.timestamp.offset.isSome := by
  simp only [mixed, Bool.and_eq_false_iff, List.any_eq_false, Bool.not_eq_true,
    Option.isSome_eq_false_iff, Option.isNone_eq_false_iff]

/-- Clocks that are not those of places agree. -/
theorem clocksAgree_of_no_place {ss : List Snapshot}
    (h : ∀ s ∈ ss, ∀ name seconds, s.timestamp.zone ≠ .place name seconds) : ClocksAgree ss := by
  right
  intro a ha b _ hplace
  cases hzone : a.timestamp.zone with
  | place name seconds => exact absurd hzone (h a ha name seconds)
  | _ =>
    rw [hzone] at hplace
    cases hplace

/-! ### Amounts as doubles -/

theorem cast_lt_two_zpow {n : Int} (h : n < twoTo 128) : (n : ℚ) < 2 ^ (128 : Int) := by
  have hcast : (n : ℚ) < ((twoTo 128 : Nat) : ℚ) := by exact_mod_cast h
  rw [Binary64.cast_twoTo] at hcast
  exact_mod_cast hcast

/-- An amount is rounded once. -/
theorem within_amount {n : Int} (hn : 0 ≤ n) (h : n < twoTo 128) :
    Binary64.Within Binary64.halfUnit (Binary64.ofInt n) n := by
  apply Binary64.within_ofInt hn
  calc (n : ℚ) ≤ 2 ^ (128 : Int) := (cast_lt_two_zpow h).le
    _ ≤ 2 ^ (250 : Int) := zpow_le_zpow_right₀ (by norm_num) (by norm_num)

theorem fits_of_hasAmounts {s : Snapshot} (h : s.HasAmounts) : fits s = true := by
  obtain ⟨⟨hassets, hassets'⟩, hsupply, hsupply'⟩ := h
  simp only [fits, (within_amount hassets hassets').isFinite,
    (within_amount hsupply hsupply').isFinite, Bool.and_self]

/-- Rounding does not bring a number of shares down to zero. -/
theorem masked_ofInt {n : Int} (hn : 0 < n) (h : n < twoTo 128) :
    masked (Binary64.ofInt n) = Binary64.ofInt n := by
  obtain ⟨m, e, hm, herror⟩ := within_amount hn.le h
  have hone : (1 : ℚ) ≤ n := by exact_mod_cast hn
  obtain ⟨hhalf, -⟩ := Binary64.rounded_bounds herror hone
  have hnonzero : m ≠ 0 := (Binary64.significand_pos hhalf).ne'
  simp [masked, hm, Binary64.isPositive, hnonzero]

/-! ### Prices -/

theorem sharePrice_zero (assets : Int) : sharePrice assets 0 = .nan := by
  have hmasked : masked (Binary64.ofInt 0) = .nan := by decide
  rw [sharePrice, hmasked]
  cases Binary64.ofInt assets <;> rfl

/-- With shares the price is the ratio of the totals, but for three roundings. -/
theorem within_sharePrice {assets supply : Int} (ha : 0 ≤ assets) (ha' : assets < twoTo 128)
    (hs : 0 < supply) (hs' : supply < twoTo 128) :
    Binary64.Within (4 * Binary64.halfUnit) (sharePrice assets supply) (assets / supply) := by
  have hwide : (2 : ℚ) ^ (128 : Int) ≤ 2 ^ (200 : Int) :=
    zpow_le_zpow_right₀ (by norm_num) (by norm_num)
  have hassets : (assets : ℚ) = 0 ∨ (1 : ℚ) ≤ assets := by
    by_cases hzero : assets = 0
    · left
      exact_mod_cast hzero
    · right
      exact_mod_cast (show 1 ≤ assets by omega)
  rw [sharePrice, masked_ofInt hs hs']
  apply Binary64.within_div (within_amount ha ha') (within_amount hs.le hs') hassets
  · exact (cast_lt_two_zpow ha').le.trans hwide
  · exact_mod_cast hs
  · exact (cast_lt_two_zpow hs').le.trans hwide

/-- The row of a snapshot of amounts has its price. -/
theorem isPriced_row {s : Snapshot} (h : s.HasAmounts) : (row s).IsPriced := by
  obtain ⟨⟨ha, ha'⟩, hs, hs'⟩ := h
  have hwithin : s.totalSupply ≠ 0 → Binary64.Within (4 * Binary64.halfUnit)
      (sharePrice s.totalAssets s.totalSupply) (s.totalAssets / s.totalSupply) :=
    fun hne => within_sharePrice ha ha' (by omega) hs'
  refine ⟨rfl, ?_, hwithin⟩
  -- A quotient near to a ratio is a number, so the price is missing in one case only.
  constructor
  · intro hnan
    by_contra hne
    exact (hwithin hne).ne_nan hnan
  · intro hzero
    show sharePrice s.totalAssets s.totalSupply = .nan
    rw [show s.totalSupply = 0 from hzero, sharePrice_zero]

/-- Snapshots of amounts make a frame when their instants can be compared: a
    rearrangement of them, in which each row has the price that its own totals make. It
    is in the order of the instants if clocks of one place show that order. -/
theorem ofSnapshots_sorts_and_prices {ss : List Snapshot}
    (hzone : (∀ s ∈ ss, s.timestamp.offset.isNone) ∨ ∀ s ∈ ss, s.timestamp.offset.isSome)
    (htotals : ∀ s ∈ ss, s.HasAmounts) :
    ∃ rows, ofSnapshots ss = .ok rows
      ∧ (rows.map FrameRow.snapshot).Perm ss
      ∧ (ClocksAgree ss → (rows.map FrameRow.snapshot).Pairwise
          fun a b => a.timestamp.moment ≤ b.timestamp.moment)
      ∧ ∀ r ∈ rows, r.IsPriced := by
  have hfits : ss.all fits = true :=
    List.all_eq_true.mpr fun s hs => fits_of_hasAmounts (htotals s hs)
  have hok : ofSnapshots ss = .ok ((ss.mergeSort (before ss)).map row) :=
    ofSnapshots_eq_ok.mpr ⟨(mixed_eq_false_iff ss).mpr hzone, hfits, rfl⟩
  refine ⟨_, hok, ofSnapshots_perm hok, ofSnapshots_sorted hok, ?_⟩
  intro r hr
  -- Sorting brings in no snapshot that is not in the list.
  obtain ⟨s, hs, rfl⟩ := List.mem_map.mp hr
  exact isPriced_row (htotals s (List.mem_mergeSort.mp hs))

/-- Four snapshots, out of order and with two offsets: two of one instant, one of
    them before there are shares, and totals of more than 64 bits. -/
def acrossOffsets : List Snapshot :=
  [ ⟨⟨2026, 1, 1, 3, 0, 0, 0, .fixed 3600⟩, 2 ^ 101, 2 ^ 100⟩,
    ⟨⟨2026, 1, 1, 2, 30, 0, 0, .fixed 7200⟩, 5, 0⟩,
    ⟨⟨2026, 1, 1, 2, 0, 0, 0, .fixed 0⟩, 2 ^ 128 - 1, 3⟩,
    ⟨⟨2025, 12, 31, 23, 0, 0, 0, .fixed 0⟩, 0, 0⟩ ]

/-- They make a frame, with prices in two of its rows. -/
theorem ofSnapshots_sorts_and_prices_acrossOffsets :
    (∀ s ∈ acrossOffsets, s.timestamp.offset.isSome)
    ∧ (∀ s ∈ acrossOffsets, s.HasAmounts)
    ∧ ∃ rows, ofSnapshots acrossOffsets = .ok rows
      ∧ (rows.map FrameRow.snapshot).Perm acrossOffsets
      ∧ (rows.map FrameRow.snapshot).Pairwise
          (fun a b => a.timestamp.moment ≤ b.timestamp.moment)
      ∧ ∀ r ∈ rows, r.IsPriced := by
  have hzone : ∀ s ∈ acrossOffsets, s.timestamp.offset.isSome := by decide
  have htotals : ∀ s ∈ acrossOffsets, s.HasAmounts := by decide
  have hclocks : ClocksAgree acrossOffsets := by
    apply clocksAgree_of_no_place
    intro s hs name seconds hplace
    simp only [acrossOffsets, List.mem_cons, List.not_mem_nil, or_false] at hs
    rcases hs with rfl | rfl | rfl | rfl
    all_goals cases hplace
  obtain ⟨rows, hrows, hperm, hsorted, hpriced⟩ :=
    ofSnapshots_sorts_and_prices (.inr hzone) htotals
  exact ⟨hzone, htotals, rows, hrows, hperm, hsorted hclocks, hpriced⟩

/-- Three snapshots of a night on which a place sets its clocks back by an hour: one
    before that, one after it at an earlier time of day, and one by universal time. -/
def acrossFallBack : List Snapshot :=
  [ ⟨⟨2026, 11, 1, 1, 30, 0, 0, .place "America/New_York" (-14400)⟩, 5, 5⟩,
    ⟨⟨2026, 11, 1, 1, 10, 0, 0, .place "America/New_York" (-18000)⟩, 7, 7⟩,
    ⟨⟨2026, 11, 1, 0, 0, 0, 0, .fixed 0⟩, 3, 3⟩ ]

/-- Each of three items comes before the one in front of it. -/
theorem mergeSort_eq_reverse {α : Type} {le : α → α → Bool} {a b c : α} (hab : le a b = false)
    (hbc : le b c = false) : [a, b, c].mergeSort le = [a, b, c].reverse := by
  simp [List.mergeSort, List.MergeSort.Internal.splitInTwo, hab, hbc]

/-- The two clocks of the place are compared by what they show, so that the later one
    comes first. Snapshots whose instants can be compared need not be in their order. -/
theorem ofSnapshots_acrossFallBack :
    (∀ s ∈ acrossFallBack, s.timestamp.offset.isSome)
    ∧ (∀ s ∈ acrossFallBack, s.HasAmounts)
    ∧ (∃ rows, ofSnapshots acrossFallBack = .ok rows
      ∧ rows.map FrameRow.snapshot = acrossFallBack.reverse)
    ∧ ¬ ∀ ss : List Snapshot,
      ((∀ s ∈ ss, s.timestamp.offset.isNone) ∨ ∀ s ∈ ss, s.timestamp.offset.isSome) →
      (∀ s ∈ ss, s.HasAmounts) →
        ∃ rows, ofSnapshots ss = .ok rows
          ∧ (rows.map FrameRow.snapshot).Pairwise
            fun a b => a.timestamp.moment ≤ b.timestamp.moment := by
  have hzone : ∀ s ∈ acrossFallBack, s.timestamp.offset.isSome := by decide
  have htotals : ∀ s ∈ acrossFallBack, s.HasAmounts := by decide
  have horder : acrossFallBack.mergeSort (before acrossFallBack) = acrossFallBack.reverse :=
    mergeSort_eq_reverse (by decide) (by decide)
  have hfits : acrossFallBack.all fits = true :=
    List.all_eq_true.mpr fun s hs => fits_of_hasAmounts (htotals s hs)
  refine ⟨hzone, htotals, ?_, ?_⟩
  · have hok := ofSnapshots_eq_ok.mpr ⟨(mixed_eq_false_iff _).mpr (.inr hzone), hfits, rfl⟩
    exact ⟨_, hok, (snapshots_of_ofSnapshots hok).trans horder⟩
  · intro hall
    obtain ⟨rows, hrows, hsorted⟩ := hall acrossFallBack (.inr hzone) htotals
    rw [snapshots_of_ofSnapshots hrows, horder] at hsorted
    exact absurd hsorted (by decide)

/-- Two for one, with totals that no machine integer holds. -/
example : sharePrice (2 ^ 101) (2 ^ 100) = .finite false (twoTo 52) (-51) := by decide

end Frame

end ShareVault
