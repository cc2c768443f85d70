import ShareVault.Proofs.Vault.Redemption

/-! # Everybody can leave

    The holders of a vault redeem all that they have, one after the other and in
    any order. Each redeem is accepted. What is lost to rounding in one redeem
    stays in the vault and makes the shares of those who come later dearer, so
    nobody is paid less than the quote before the first of them left. The last
    holder has all shares that are left and is paid all assets that are left.

    Main statements:
    - `previewRedeem_le_withoutHolder`: nobody who stays is quoted less when one leaves;
    - `all_leave_in_any_order`: all holders leave, in any order.
-/

namespace ShareVault

open Receipt

namespace Ledger

variable {t : Terms} {l : Ledger}

/-- The ledger after a holder redeemed all shares that it has. -/
def withoutHolder (t : Terms) (l : Ledger) (a recipient : Text) : Ledger :=
  l.post t (.burned a (l.maxRedeem a) recipient (l.previewRedeem (l.maxRedeem a)))

/-- A redeem of all shares of a holder is due. -/
theorem isDue_withoutHolder {a : Text} (ha : 0 < l.maxRedeem a) (recipient : Text) :
    l.IsDue t (.burned a (l.maxRedeem a) recipient (l.previewRedeem (l.maxRedeem a))) :=
  ⟨ha, Int.le_refl _, rfl⟩

/-- A holder who leaves has nothing left. -/
theorem maxRedeem_withoutHolder_self (t : Terms) (l : Ledger) (a recipient : Text) :
    (l.withoutHolder t a recipient).maxRedeem a = 0 := by
  unfold withoutHolder maxRedeem
  rw [get_balances_post]
  simp [mintedTo, burnedFrom]

/-- The others keep what they have. -/
theorem maxRedeem_withoutHolder_ne (t : Terms) (l : Ledger) {a b : Text} (h : b ≠ a)
    (recipient : Text) : (l.withoutHolder t a recipient).maxRedeem b = l.maxRedeem b := by
  unfold withoutHolder maxRedeem
  rw [get_balances_post]
  simp [mintedTo, burnedFrom, Ne.symm h]

/-- The holders other than the one who leaves are those who are left. -/
theorem holders_withoutHolder {a : Text} {order : List Text} (ha : a ∉ order)
    (horder : ∀ b, b ∈ a :: order ↔ 0 < l.maxRedeem b) (recipient : Text) :
    ∀ b, b ∈ order ↔ 0 < (l.withoutHolder t a recipient).maxRedeem b := by
  intro b
  by_cases h : b = a
  · subst h
    rw [maxRedeem_withoutHolder_self]
    constructor
    · intro hmem
      exact absurd hmem ha
    · intro hpos
      exact absurd hpos (Int.lt_irrefl 0)
  · rw [maxRedeem_withoutHolder_ne t l h, ← horder b, List.mem_cons]
    constructor
    · intro hmem
      exact .inr hmem
    · rintro (heq | hmem)
      · exact absurd heq h
      · exact hmem

/-- Nobody who stays is quoted less than before. -/
theorem previewRedeem_le_withoutHolder (hl : l.Sound) (ht : t.IsFair) {a b : Text}
    (ha : 0 < l.maxRedeem a) (h : b ≠ a) (recipient : Text) :
    l.previewRedeem (l.maxRedeem b)
      ≤ (l.withoutHolder t a recipient).previewRedeem (l.maxRedeem b) := by
  have hkeep : l.maxRedeem b ≤ (l.withoutHolder t a recipient).maxRedeem b := by
    rw [maxRedeem_withoutHolder_ne t l h]
  exact previewRedeem_le_post hl ht (isDue_withoutHolder ha recipient) trivial
    (hl.balances_nonneg b) (Int.le_refl _) hkeep

/-- No assets are left without an owner: who takes the last shares is paid all
    assets there are. -/
theorem owned_withoutHolder (hl : l.Sound) {a : Text} (ha : 0 < l.maxRedeem a)
    (recipient : Text) :
    0 < (l.withoutHolder t a recipient).totalSupply
      ∨ (l.withoutHolder t a recipient).totalAssets = 0 := by
  have hpart := hl.maxRedeem_le_supply a
  have hsupply : (l.withoutHolder t a recipient).totalSupply
      = l.totalSupply - l.maxRedeem a := rfl
  have hassets : (l.withoutHolder t a recipient).totalAssets
      = l.totalAssets - l.previewRedeem (l.maxRedeem a) := rfl
  rcases Int.lt_or_eq_of_le hpart with hsome | hall
  · left
    omega
  · right
    have hpaid : l.previewRedeem (l.maxRedeem a) = l.totalAssets := by
      rw [hall]
      exact assetsFor_totalSupply (by omega)
    omega

/-- Without holders there are no shares. -/
theorem Sound.supply_eq_zero (hl : l.Sound) (h : ∀ a, ¬ 0 < l.maxRedeem a) :
    l.totalSupply = 0 ∧ ∀ a, l.balances.get a = 0 := by
  have hzero : ∀ a, l.balances.get a = 0 := by
    intro a
    have hnone : ¬ 0 < l.balances.get a := h a
    have hnonneg := hl.balances_nonneg a
    omega
  have hle : l.totalSupply ≤ Ledger.empty.totalSupply := by
    apply hl.supply_le Sound.empty
    intro a
    rw [hzero a]
    exact Int.le_refl 0
  have hge := hl.supply_nonneg
  exact ⟨Int.le_antisymm hle hge, hzero⟩

end Ledger

namespace Vault

variable {H : Type} [Handler H] {v : Vault H} {recipient : Text → Option Text}

/-! ## One holder leaves -/

/-- A holder redeems all shares that it has, and says who receives the assets. -/
def leave (v : Vault H) (recipient : Text → Option Text) (a : Text) : Act :=
  .command (.redeem (v.ledger.maxRedeem a) (recipient a)) a (v.ledger.maxRedeem a)

/-- A redeem of all that a holder has is accepted and pays the quote. -/
theorem receipt_leave {a : Text} (ha : 0 < v.ledger.maxRedeem a) :
    v.receipt (v.leave recipient a)
      = .burned a (v.ledger.maxRedeem a) (receiver a (recipient a))
          (v.ledger.previewRedeem (v.ledger.maxRedeem a)) := by
  have hpaid := redeem_quote v ha (Int.le_refl _) (recipient a)
  simp only [receipt, leave, hpaid, Command.receipt]

theorem ledger_leave {a : Text} (ha : 0 < v.ledger.maxRedeem a)
    (recipient : Text → Option Text) :
    (v.act (v.leave recipient a)).ledger
      = v.ledger.withoutHolder v.terms a (receiver a (recipient a)) := by
  rw [ledger_act, receipt_leave ha]
  rfl

omit [Handler H] in
theorem allows_leave {a : Text} (ha : 0 < v.ledger.maxRedeem a) :
    v.Allows (v.leave recipient a) := Int.le_of_lt ha

/-! ## One after the other -/

/-- The acts by which some holders leave, each with what it has then. -/
def leaveAll (v : Vault H) (recipient : Text → Option Text) : List Text → List Act
  | [] => []
  | a :: order =>
    v.leave recipient a :: (v.act (v.leave recipient a)).leaveAll recipient order

/-- The receipts for holders who leave: each gave up the shares that it had in the
    vault `v` and was paid at least the quote of `v` for them. -/
def PaidOut (v : Vault H) (recipient : Text → Option Text) : List Text → List Receipt → Prop :=
  List.Forall₂ fun a r => ∃ quote paid,
    (v.query (Question.previewRedeem (v.ledger.maxRedeem a)).toMessage).1 = .ok (.int quote)
      ∧ r = .burned a (v.ledger.maxRedeem a) (receiver a (recipient a)) paid ∧ quote ≤ paid

/-- What holders are paid counts from an earlier vault as well, in which they had the
    same shares and were quoted no more. -/
theorem PaidOut.of_le {w : Vault H} {order : List Text} {rs : List Receipt}
    (h : w.PaidOut recipient order rs)
    (hsame : ∀ a ∈ order, w.ledger.maxRedeem a = v.ledger.maxRedeem a)
    (hquote : ∀ a ∈ order, v.ledger.previewRedeem (v.ledger.maxRedeem a)
      ≤ w.ledger.previewRedeem (v.ledger.maxRedeem a)) : v.PaidOut recipient order rs := by
  unfold PaidOut at h ⊢
  induction h with
  | nil => exact .nil
  | @cons a r order rs hhead _ ih =>
    obtain ⟨quote, paid, hanswer, hreceipt, hpaid⟩ := hhead
    have hshares := hsame a (List.mem_cons_self ..)
    have hless := hquote a (List.mem_cons_self ..)
    rw [hshares] at hanswer hreceipt
    rw [query_previewRedeem, Except.ok.injEq, Value.int.injEq] at hanswer
    refine .cons ⟨_, paid, query_previewRedeem .., hreceipt, by omega⟩ (ih ?_ ?_)
    · intro b hb
      exact hsame b (List.mem_cons_of_mem a hb)
    · intro b hb
      exact hquote b (List.mem_cons_of_mem a hb)

/-- All holders leave in the given order, and nothing is left. -/
theorem paidOut_leaveAll (recipient : Text → Option Text) (hv : v.Reachable)
    (howned : 0 < v.ledger.totalSupply ∨ v.ledger.totalAssets = 0) {order : List Text}
    (hnodup : order.Nodup) (horder : ∀ a, a ∈ order ↔ 0 < v.ledger.maxRedeem a) :
    v.PaidOut recipient order (v.receipts (v.leaveAll recipient order))
      ∧ (v.after (v.leaveAll recipient order)).ledger.totalAssets = 0
      ∧ (v.after (v.leaveAll recipient order)).ledger.totalSupply = 0
      ∧ ∀ a, (v.after (v.leaveAll recipient order)).ledger.balances.get a = 0 := by
  induction order generalizing v with
  | nil =>
    have hnone : ∀ a, ¬ 0 < v.ledger.maxRedeem a := by
      intro a ha
      exact absurd ((horder a).mpr ha) List.not_mem_nil
    obtain ⟨hsupply, hbalances⟩ := hv.sound.supply_eq_zero hnone
    have hassets : v.ledger.totalAssets = 0 := by
      rcases howned with hpos | hzero
      · omega
      · exact hzero
    exact ⟨.nil, hassets, hsupply, hbalances⟩
  | cons a order ih =>
    obtain ⟨hnew, hrest⟩ := List.nodup_cons.mp hnodup
    have ha : 0 < v.ledger.maxRedeem a := (horder a).mp (List.mem_cons_self ..)
    have hne : ∀ b ∈ order, b ≠ a := by
      rintro b hb rfl
      exact hnew hb
    have hledger := ledger_leave ha recipient
    -- The vault without `a` is as `v` was: reachable, with an owner for all assets, and
    -- with exactly the other holders.
    have hreach : (v.act (v.leave recipient a)).Reachable := hv.act (allows_leave ha)
    obtain ⟨hpaid, hempty⟩ := ih hreach
      (by rw [hledger]; exact Ledger.owned_withoutHolder hv.sound ha _) hrest
      (by rw [hledger]; exact Ledger.holders_withoutHolder hnew horder _)
    refine ⟨?_, hempty⟩
    refine .cons ⟨_, _, query_previewRedeem .., receipt_leave ha, Int.le_refl _⟩ ?_
    refine hpaid.of_le ?_ ?_
    · intro b hb
      rw [hledger]
      exact Ledger.maxRedeem_withoutHolder_ne _ _ (hne b hb) _
    · intro b hb
      rw [hledger]
      exact Ledger.previewRedeem_le_withoutHolder hv.sound hv.isFair ha (hne b hb) _

/-- Nothing is deposited and nothing comes from outside while holders leave. -/
theorem PaidOut.sum_eq_zero {order : List Text} {rs : List Receipt}
    (h : v.PaidOut recipient order rs) (t : Terms) :
    sum gross rs = 0 ∧ sum (fee t) rs = 0 ∧ sum yielded rs = 0 := by
  unfold PaidOut at h
  induction h with
  | nil => exact ⟨rfl, rfl, rfl⟩
  | cons hhead _ ih =>
    obtain ⟨hgross, hfee, hyield⟩ := ih
    obtain ⟨_, _, _, rfl, _⟩ := hhead
    simp only [sum_cons, gross, fee, yielded, hgross, hfee, hyield]
    exact ⟨rfl, rfl, rfl⟩

/-- All holders redeem what they have, in any order and for any recipients. Each
    redeem is accepted and pays no less than the quote before the first one, the
    payments are all assets of the vault, and neither shares nor assets are left. -/
theorem all_leave_in_any_order (hv : v.Reachable) (hS : 0 < v.ledger.totalSupply)
    {order : List Text} (hnodup : order.Nodup)
    (horder : ∀ a, a ∈ order ↔ 0 < v.ledger.maxRedeem a) (recipient : Text → Option Text) :
    let acts := v.leaveAll recipient order
    v.PaidOut recipient order (v.receipts acts)
      ∧ sum paid (v.receipts acts) = v.ledger.totalAssets
      ∧ (v.after acts).ledger.totalAssets = 0
      ∧ (v.after acts).ledger.totalSupply = 0
      ∧ ∀ a, (v.after acts).ledger.balances.get a = 0 := by
  obtain ⟨hpaid, hassets, hsupply, hbalances⟩ :=
    paidOut_leaveAll recipient hv (.inl hS) hnodup horder
  obtain ⟨hgross, hfee, hyield⟩ := hpaid.sum_eq_zero v.terms
  -- The assets changed by the payments alone, and in the end there are none.
  have hflow := Ledger.totalAssets_postAll v.terms v.ledger
    (v.receipts (v.leaveAll recipient order))
  rw [← ledger_after, hassets, hgross, hfee, hyield] at hflow
  exact ⟨hpaid, by omega, hassets, hsupply, hbalances⟩

/-- Three holders, after a yield and a loss. -/
def holdersRun : List Act :=
  [.command (.deposit 1000 none) "alice" 1000, .outside 101,
    .command (.deposit 500 (some "carol")) "bob" 500, .command (.deposit 77 none) "bob" 77,
    .outside (-40), .command (.redeem 333 (some "dave")) "alice" 333]

/-- The order in which they leave. -/
def leavers : List Text := ["carol", "alice", "bob"]

/-- One of them sends the assets to somebody else. -/
def payee (a : Text) : Option Text := if a = "carol" then some "dave" else none

/-- What they are paid. -/
def leaverReceipts : List Receipt :=
  [.burned "carol" 452 "dave" 485, .burned "alice" 664 "alice" 714, .burned "bob" 69 "bob" 75]

theorem all_leave_leavers : ∃ v : Vault KeeperList, v.Reachable ∧ 0 < v.ledger.totalSupply
    ∧ leavers.Nodup ∧ (∀ a, a ∈ leavers ↔ 0 < v.ledger.maxRedeem a)
    ∧ v.receipts (v.leaveAll payee leavers) = leaverReceipts
    ∧ v.PaidOut payee leavers leaverReceipts ∧ sum paid leaverReceipts = v.ledger.totalAssets
    ∧ (v.after (v.leaveAll payee leavers)).ledger.totalAssets = 0
    ∧ (v.after (v.leaveAll payee leavers)).ledger.totalSupply = 0
    ∧ ∀ a, (v.after (v.leaveAll payee leavers)).ledger.balances.get a = 0 := by
  obtain ⟨start, hnew, hpast, hS, hkeys, hpos, hreceipts⟩ := exists_isNew_of_createSample
    (p := fun v => v.Lawful holdersRun
      ∧ 0 < (v.after holdersRun).ledger.totalSupply
      ∧ (∀ a ∈ (v.after holdersRun).ledger.balances.keys, a ∈ leavers)
      ∧ (∀ a ∈ leavers, 0 < (v.after holdersRun).ledger.maxRedeem a)
      ∧ (v.after holdersRun).receipts ((v.after holdersRun).leaveAll payee leavers)
        = leaverReceipts)
    (by decide +kernel)
  have hreach : (start.after holdersRun).Reachable := (Reachable.of_isNew hnew).after hpast
  have hnodup : leavers.Nodup := by decide
  have horder : ∀ a, a ∈ leavers ↔ 0 < (start.after holdersRun).ledger.maxRedeem a := by
    intro a
    refine ⟨hpos a, ?_⟩
    intro ha
    by_cases hkey : a ∈ (start.after holdersRun).ledger.balances.keys
    · exact hkeys a hkey
    · have hnone : (start.after holdersRun).ledger.maxRedeem a = 0 :=
        Accounts.get_of_not_mem hkey
      omega
  have hleave := all_leave_in_any_order hreach hS hnodup horder payee
  simp only [hreceipts] at hleave
  exact ⟨_, hreach, hS, hnodup, horder, hreceipts, hleave⟩

end Vault

end ShareVault
