import ShareVault.Proofs.Ledger.Price

/-! # Caps on deposits

    One cap bounds the assets of a vault, another one what each recipient is credited
    with. The two are not in the same units: the fee of a deposit is not added to the
    assets but is credited to the recipient, and redeems take from the assets alone.

    The limit of a recipient is the lesser of what is missing to either cap. A deposit
    is within that limit exactly if both caps have room for all of it. So a deposit
    never ends above the cap on the assets, though a yield may, and no run of deposits
    takes a recipient above the cap of each.

    Main statements:
    - `not_exceeds_maxDeposit_iff`: what is within the limit;
    - `totalAssets_postAll_le`: without a yield the assets stay within their cap;
    - `deposited_postAll_le`: what a recipient is credited with stays within its cap.
-/

namespace ShareVault

/-- A cap, if there is one, has room for an amount on top of what is used of it. -/
def HasRoom (cap : Option Int) (used amount : Int) : Prop :=
  ∀ bound, cap = some bound → used + amount ≤ bound

namespace Ledger

variable {t : Terms} {l : Ledger} {G : Text → Prop}

/-! ## The limit -/

/-- The lesser of two bounds is exceeded when either is. -/
theorem exceeds_lesser (amount : Int) (a b : Option Int) :
    exceeds amount (lesser a b) = (exceeds amount a || exceeds amount b) := by
  cases a with
  | none => rfl
  | some m =>
    cases b with
    | none => simp only [lesser, exceeds, Bool.or_false]
    | some n =>
      simp only [lesser, exceeds, ← Bool.decide_or, decide_eq_decide]
      omega

/-- What is missing to a cap is exceeded when the cap has no room. A cap that is
    passed already has none for anything. -/
theorem not_exceeds_missing_iff {cap : Option Int} {used amount : Int} (hamount : 0 < amount) :
    exceeds amount (cap.map fun bound => max (bound - used) 0) = false
      ↔ HasRoom cap used amount := by
  unfold HasRoom
  cases cap with
  | none => simp only [Option.map_none, exceeds, reduceCtorEq, false_imp_iff, implies_true]
  | some bound =>
    simp only [Option.map_some, exceeds, decide_eq_false_iff_not, Option.some.injEq,
      forall_eq']
    omega

/-- A deposit is within the limit exactly if deposits are enabled and both caps have
    room for all of it, the fee included. -/
theorem not_exceeds_maxDeposit_iff {amount : Int} {recipient : Text} (hamount : 0 < amount) :
    exceeds amount (l.maxDeposit t recipient) = false
      ↔ t.depositsEnabled = true ∧ HasRoom t.depositCap l.totalAssets amount
        ∧ HasRoom t.userDepositCap (l.deposited.get recipient) amount := by
  unfold maxDeposit
  by_cases henabled : t.depositsEnabled = true
  · rw [if_pos henabled, exceeds_lesser, Bool.or_eq_false_iff, not_exceeds_missing_iff hamount,
      not_exceeds_missing_iff hamount]
    exact (and_iff_right henabled).symm
  · have hover : exceeds amount (some 0) = true := decide_eq_true hamount
    rw [if_neg henabled, hover]
    constructor
    · intro h
      cases h
    · intro h
      exact absurd h.1 henabled

theorem lesser_nonneg {a b : Option Int} (ha : ∀ m, a = some m → 0 ≤ m)
    (hb : ∀ n, b = some n → 0 ≤ n) {limit : Int} (h : lesser a b = some limit) : 0 ≤ limit := by
  cases a with
  | none => exact hb limit h
  | some m =>
    have hm := ha m rfl
    cases b with
    | none =>
      cases h
      exact hm
    | some n =>
      have hn := hb n rfl
      cases h
      omega

theorem maxDeposit_nonneg {recipient : Text} {limit : Int}
    (h : l.maxDeposit t recipient = some limit) : 0 ≤ limit := by
  have hmissing : ∀ {cap : Option Int} {used : Int} (m : Int),
      (cap.map fun bound => max (bound - used) 0) = some m → 0 ≤ m := by
    intro cap used m hm
    obtain ⟨bound, -, rfl⟩ := Option.map_eq_some_iff.mp hm
    exact Int.le_max_right ..
  unfold maxDeposit at h
  split at h
  · exact lesser_nonneg hmissing hmissing h
  · cases h
    exact Int.le_refl 0

/-! ## The assets -/

/-- Right after a deposit the assets are within their cap, wherever they were
    before. -/
theorem totalAssets_minted_le (ht : t.IsFair) {cap : Int} (hcap : t.depositCap = some cap)
    {recipient : Text} {gross shares : Int} (hr : l.IsDue t (.minted recipient gross shares)) :
    (l.post t (.minted recipient gross shares)).totalAssets ≤ cap := by
  obtain ⟨hgross, hlimit, -, -⟩ := hr
  obtain ⟨-, hroom, -⟩ := (not_exceeds_maxDeposit_iff hgross).mp hlimit
  have hbound := hroom cap hcap
  have hnet := Terms.net_le ht (Int.le_of_lt hgross)
  simp only [post, afterDeposit]
  omega

/-- No trade takes the assets above a cap that they are within. -/
theorem totalAssets_post_le (hl : l.Sound) (ht : t.IsFair) {cap bound : Int}
    (hcap : t.depositCap = some cap) (hbound : cap ≤ bound) (h : l.totalAssets ≤ bound)
    {r : Receipt} (hr : l.IsDue t r) (hG : r.IsWithin G) :
    (l.post t r).totalAssets ≤ bound := by
  cases r with
  | nothing => exact h
  | minted recipient gross shares =>
    exact Int.le_trans (totalAssets_minted_le ht hcap hr) hbound
  | burned holder shares recipient paid =>
    obtain ⟨hshares, -, rfl⟩ := hr
    have hpaid : 0 ≤ l.previewRedeem shares :=
      assetsFor_nonneg hl.assets_nonneg hl.supply_nonneg (Int.le_of_lt hshares)
    simp only [post, afterRedeem]
    omega
  | moved change => exact absurd hG id

theorem totalAssets_postAll_le (hl : l.Sound) (ht : t.IsFair) {cap bound : Int}
    (hcap : t.depositCap = some cap) (hbound : cap ≤ bound) (h : l.totalAssets ≤ bound)
    {rs : List Receipt} (hrs : l.AreDue t rs) (hG : ∀ r ∈ rs, r.IsWithin G) :
    (l.postAll t rs).totalAssets ≤ bound := by
  induction rs generalizing l with
  | nil => exact h
  | cons r rs ih =>
    obtain ⟨hr, hrest⟩ := hrs
    have hstep := totalAssets_post_le hl ht hcap hbound h hr (hG r (List.mem_cons_self ..))
    exact ih (hl.post ht hr) hstep hrest fun q hq => hG q (List.mem_cons_of_mem r hq)

/-! ## The credit of a recipient -/

/-- Whatever happens, a recipient within the cap of each stays within it: only a
    deposit for the recipient counts, and for that one there was room. -/
theorem deposited_post_le {cap bound : Int} (hcap : t.userDepositCap = some cap)
    (hbound : cap ≤ bound) {a : Text} (h : l.deposited.get a ≤ bound) {r : Receipt}
    (hr : l.IsDue t r) : (l.post t r).deposited.get a ≤ bound := by
  rw [get_deposited_post]
  cases r with
  | minted recipient gross shares =>
    obtain ⟨hgross, hlimit, -, -⟩ := hr
    obtain ⟨-, -, hroom⟩ := (not_exceeds_maxDeposit_iff hgross).mp hlimit
    by_cases ha : recipient = a
    · subst ha
      have hleft := hroom cap hcap
      simp only [Receipt.creditedTo, if_true]
      omega
    · simp only [Receipt.creditedTo, if_neg ha]
      omega
  | nothing =>
    simp only [Receipt.creditedTo]
    omega
  | burned holder shares recipient paid =>
    simp only [Receipt.creditedTo]
    omega
  | moved change =>
    simp only [Receipt.creditedTo]
    omega

theorem deposited_postAll_le {cap bound : Int} (hcap : t.userDepositCap = some cap)
    (hbound : cap ≤ bound) {a : Text} (h : l.deposited.get a ≤ bound) {rs : List Receipt}
    (hrs : l.AreDue t rs) : (l.postAll t rs).deposited.get a ≤ bound := by
  induction rs generalizing l with
  | nil => exact h
  | cons r rs ih =>
    obtain ⟨hr, hrest⟩ := hrs
    exact ih (deposited_post_le hcap hbound h hr) hrest

end Ledger

end ShareVault
