import ShareVault.Proofs.Ledger.Sound

/-! # The price of a share

    The price of a share is the ratio of the assets to the supply. It is compared
    with the denominators cleared, so that nothing is divided and a supply of
    zero needs no exception.

    Deposits mint too little, redeems pay too little, and yields only add: while
    there are shares the price does not fall. Where the supply is zero the price
    may start anew, so only what somebody holds all the while keeps its worth.

    Main statements:
    - `priceLe_post`: no due receipt but a loss makes shares cheaper;
    - `previewRedeem_mono`: what shares are worth rises with the price;
    - `totalAssets_le_postAll`: those who had nothing and have nothing again
      cannot have taken assets out.
-/

namespace ShareVault

namespace Receipt

/-- The receipt is not for a loss. -/
def IsLossless : Receipt → Prop
  | .moved change => 0 ≤ change
  | _ => True

/-- Only addresses of a group get shares or give them up, and nothing comes from
    outside. -/
def IsWithin (G : Text → Prop) : Receipt → Prop
  | .nothing => True
  | .minted recipient _ _ => G recipient
  | .burned holder _ _ _ => G holder
  | .moved _ => False

theorem IsWithin.isLossless {G : Text → Prop} {r : Receipt} (h : r.IsWithin G) :
    r.IsLossless := by
  cases r with
  | moved change => exact absurd h id
  | _ => trivial

theorem IsWithin.yielded_eq_zero {G : Text → Prop} {r : Receipt} (h : r.IsWithin G) :
    r.yielded = 0 := by
  cases r with
  | moved change => exact absurd h id
  | _ => rfl

end Receipt

namespace Ledger

variable {t : Terms} {l l' l'' : Ledger}

/-- Shares are not cheaper in the second ledger than in the first. -/
def PriceLe (l l' : Ledger) : Prop :=
  l.totalAssets * l'.totalSupply ≤ l'.totalAssets * l.totalSupply

theorem PriceLe.refl (l : Ledger) : l.PriceLe l := Int.le_refl _

/-- Prices compare through a ledger that has one. -/
theorem PriceLe.trans (h : l.PriceLe l') (h' : l'.PriceLe l'') (hS : 0 ≤ l.totalSupply)
    (hS' : 0 < l'.totalSupply) (hS'' : 0 ≤ l''.totalSupply) : l.PriceLe l'' := by
  unfold PriceLe at h h' ⊢
  have hleft := Int.mul_le_mul_of_nonneg_right h hS''
  have hright := Int.mul_le_mul_of_nonneg_right h' hS
  -- Both are multiplied by what is missing; the supply in between cancels.
  have hmul : l.totalAssets * l''.totalSupply * l'.totalSupply
      ≤ l''.totalAssets * l.totalSupply * l'.totalSupply := by
    calc l.totalAssets * l''.totalSupply * l'.totalSupply
        = l.totalAssets * l'.totalSupply * l''.totalSupply := by ring
      _ ≤ l'.totalAssets * l.totalSupply * l''.totalSupply := hleft
      _ = l'.totalAssets * l''.totalSupply * l.totalSupply := by ring
      _ ≤ l''.totalAssets * l'.totalSupply * l.totalSupply := hright
      _ = l''.totalAssets * l.totalSupply * l'.totalSupply := by ring
  exact Int.le_of_mul_le_mul_right hmul hS'

/-- While there are shares, no due receipt but a loss makes them cheaper. -/
theorem priceLe_post (hl : l.Sound) (ht : t.IsFair) (hS : 0 < l.totalSupply) {r : Receipt}
    (hr : l.IsDue t r) (hgain : r.IsLossless) : l.PriceLe (l.post t r) := by
  unfold PriceLe
  cases r with
  | nothing => exact Int.le_refl _
  | minted recipient gross shares =>
    obtain ⟨hgross, -, -, rfl⟩ := hr
    have hnet := Terms.net_nonneg ht (Int.le_of_lt hgross)
    have hminted : l.previewDeposit t gross * l.totalAssets ≤ t.net gross * l.totalSupply :=
      sharesFor_mul_le hl.assets_nonneg hS hnet
    simp only [post, afterDeposit]
    linarith
  | burned holder shares recipient paid =>
    obtain ⟨-, -, rfl⟩ := hr
    have hpaid : l.previewRedeem shares * l.totalSupply ≤ shares * l.totalAssets :=
      assetsFor_mul_le hS shares
    simp only [post, afterRedeem]
    linarith
  | moved change =>
    have hchange : 0 ≤ change * l.totalSupply := Int.mul_nonneg hgain (Int.le_of_lt hS)
    simp only [post, shift]
    linarith

/-- What shares are worth rises with the price. -/
theorem previewRedeem_mono (h : l.PriceLe l') (hS : 0 < l.totalSupply)
    (hS' : 0 < l'.totalSupply) {shares : Int} (hshares : 0 ≤ shares) :
    l.previewRedeem shares ≤ l'.previewRedeem shares := by
  have hpaid : l.previewRedeem shares * l.totalSupply ≤ shares * l.totalAssets :=
    assetsFor_mul_le hS shares
  have hless := Int.mul_le_mul_of_nonneg_right hpaid (Int.le_of_lt hS')
  have hmore := Int.mul_le_mul_of_nonneg_left h hshares
  have hmul : l.previewRedeem shares * l'.totalSupply * l.totalSupply
      ≤ shares * l'.totalAssets * l.totalSupply := by
    calc l.previewRedeem shares * l'.totalSupply * l.totalSupply
        = l.previewRedeem shares * l.totalSupply * l'.totalSupply := by ring
      _ ≤ shares * l.totalAssets * l'.totalSupply := hless
      _ = shares * (l.totalAssets * l'.totalSupply) := by ring
      _ ≤ shares * (l'.totalAssets * l.totalSupply) := hmore
      _ = shares * l'.totalAssets * l.totalSupply := by ring
  have hworth := Int.le_of_mul_le_mul_right hmul hS
  have hquote : l'.previewRedeem shares = shares * l'.totalAssets / l'.totalSupply :=
    assetsFor_of_shares hS' shares
  rw [hquote]
  exact Int.le_ediv_of_mul_le hS' hworth

/-! ## What a holder has -/

theorem previewRedeem_zero (l : Ledger) : l.previewRedeem 0 = 0 := by
  unfold previewRedeem assetsFor
  split
  · rfl
  · rw [Int.zero_mul, Int.zero_fdiv]

/-- Shares that somebody holds before and after are worth no less after. -/
theorem previewRedeem_le_post (hl : l.Sound) (ht : t.IsFair) {r : Receipt} (hr : l.IsDue t r)
    (hgain : r.IsLossless) {holder : Text} {shares : Int} (hshares : 0 ≤ shares)
    (hbefore : shares ≤ l.maxRedeem holder) (hafter : shares ≤ (l.post t r).maxRedeem holder) :
    l.previewRedeem shares ≤ (l.post t r).previewRedeem shares := by
  rcases Int.lt_or_eq_of_le hshares with hpos | hzero
  · have hS := hl.maxRedeem_le_supply holder
    have hS' := (hl.post ht hr).maxRedeem_le_supply holder
    exact previewRedeem_mono (priceLe_post hl ht (by omega) hr hgain) (by omega) (by omega) hshares
  · rw [← hzero, previewRedeem_zero, previewRedeem_zero]

/-- Who does not redeem keeps at least the same shares. -/
theorem maxRedeem_le_post (hl : l.Sound) (ht : t.IsFair) {r : Receipt} (hr : l.IsDue t r)
    {holder : Text} (hkeep : r.burnedFrom holder = 0) :
    l.maxRedeem holder ≤ (l.post t r).maxRedeem holder := by
  have hminted : 0 ≤ r.mintedTo holder := by
    cases r with
    | minted recipient gross shares =>
      obtain ⟨hgross, -, -, rfl⟩ := hr
      have hshares := hl.previewDeposit_nonneg ht (Int.le_of_lt hgross)
      simp only [Receipt.mintedTo]
      split
      · exact hshares
      · exact Int.le_refl 0
    | _ => exact Int.le_refl 0
  unfold maxRedeem
  rw [get_balances_post]
  omega

/-! ## Trading within a group -/

section Trading

variable {G : Text → Prop}

/-- Trades within a group do not touch the shares of others. -/
theorem get_balances_post_of_not_mem {r : Receipt} (hr : r.IsWithin G) {a : Text} (ha : ¬ G a) :
    (l.post t r).balances.get a = l.balances.get a := by
  rw [get_balances_post]
  cases r with
  | nothing => simp [Receipt.mintedTo, Receipt.burnedFrom]
  | minted recipient gross shares =>
    have hne : recipient ≠ a := fun heq => ha (heq ▸ hr)
    simp [Receipt.mintedTo, Receipt.burnedFrom, hne]
  | burned holder shares recipient paid =>
    have hne : holder ≠ a := fun heq => ha (heq ▸ hr)
    simp [Receipt.mintedTo, Receipt.burnedFrom, hne]
  | moved change => exact absurd hr id

/-- The state of trading within a group since `l`: the others have what they had,
    and shares are not cheaper. -/
structure Traded (G : Text → Prop) (l l' : Ledger) : Prop where
  sound : l'.Sound
  others : ∀ a, ¬ G a → l'.balances.get a = l.balances.get a
  price : l.PriceLe l'

/-- If the group had nothing, the supply is never below what it was. -/
theorem Traded.supply_le (h : Traded G l l') (hl : l.Sound)
    (hnone : ∀ a, G a → l.balances.get a = 0) : l.totalSupply ≤ l'.totalSupply := by
  apply hl.supply_le h.sound
  intro a
  by_cases ha : G a
  · rw [hnone a ha]
    exact h.sound.balances_nonneg a
  · rw [h.others a ha]

/-- If the group has nothing again, neither is it above. -/
theorem Traded.le_supply (h : Traded G l l') (hl : l.Sound)
    (hnone : ∀ a, G a → l'.balances.get a = 0) : l'.totalSupply ≤ l.totalSupply := by
  apply h.sound.supply_le hl
  intro a
  by_cases ha : G a
  · rw [hnone a ha]
    exact hl.balances_nonneg a
  · rw [h.others a ha]

/-- Trading goes on: as the group had nothing, there are always shares, and with
    them a price. -/
theorem Traded.post (h : Traded G l l') (hl : l.Sound) (hS : 0 < l.totalSupply)
    (hnone : ∀ a, G a → l.balances.get a = 0) (ht : t.IsFair) {r : Receipt} (hr : l'.IsDue t r)
    (hG : r.IsWithin G) : Traded G l (l'.post t r) := by
  have hsupply := h.supply_le hl hnone
  have hsound := h.sound.post ht hr
  refine ⟨hsound, ?_, ?_⟩
  · intro a ha
    rw [get_balances_post_of_not_mem hG ha, h.others a ha]
  · have hstep := priceLe_post h.sound ht (by omega) hr hG.isLossless
    exact h.price.trans hstep (Int.le_of_lt hS) (by omega) hsound.supply_nonneg

theorem Traded.postAll (h : Traded G l l') (hl : l.Sound) (hS : 0 < l.totalSupply)
    (hnone : ∀ a, G a → l.balances.get a = 0) (ht : t.IsFair) {rs : List Receipt}
    (hrs : l'.AreDue t rs) (hG : ∀ r ∈ rs, r.IsWithin G) : Traded G l (l'.postAll t rs) := by
  induction rs generalizing l' with
  | nil => exact h
  | cons r rs ih =>
    obtain ⟨hr, hrest⟩ := hrs
    have hstep := h.post hl hS hnone ht hr (hG r (List.mem_cons_self ..))
    exact ih hstep hrest fun q hq => hG q (List.mem_cons_of_mem r hq)

/-- Those who had no shares and have none again took no assets out, as long as
    there was no wealth without an owner. -/
theorem totalAssets_le_postAll (hl : l.Sound) (howned : 0 < l.totalSupply ∨ l.totalAssets = 0)
    (ht : t.IsFair) {rs : List Receipt} (hrs : l.AreDue t rs) (hG : ∀ r ∈ rs, r.IsWithin G)
    (hbefore : ∀ a, G a → l.balances.get a = 0)
    (hafter : ∀ a, G a → (l.postAll t rs).balances.get a = 0) :
    l.totalAssets ≤ (l.postAll t rs).totalAssets := by
  rcases howned with hS | hzero
  · have hstart : Traded G l l := ⟨hl, fun _ _ => rfl, PriceLe.refl l⟩
    have htraded := hstart.postAll hl hS hbefore ht hrs hG
    have hsame : (l.postAll t rs).totalSupply = l.totalSupply :=
      Int.le_antisymm (htraded.le_supply hl hafter) (htraded.supply_le hl hbefore)
    -- With equal supplies the prices compare as the assets.
    have hprice := htraded.price
    unfold PriceLe at hprice
    rw [hsame] at hprice
    exact Int.le_of_mul_le_mul_right hprice hS
  · rw [hzero]
    exact (hl.postAll ht hrs).assets_nonneg

end Trading

end Ledger

end ShareVault
