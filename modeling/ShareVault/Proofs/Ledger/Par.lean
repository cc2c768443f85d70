import ShareVault.Proofs.Ledger.Price

/-! # Shares at par

    As long as nothing comes from outside, a share is worth one asset: a deposit
    mints what the fee leaves of it, and a redeem pays as many assets as it burns
    shares, with nothing to round. The assets and the supply stay equal.

    Main statements:
    - `AtPar.postAll`: trades keep shares at par.
-/

namespace ShareVault

namespace Ledger

variable {t : Terms} {l : Ledger} {G : Text → Prop}

/-! ## One for one -/

/-- A share is worth one asset. -/
def AtPar (l : Ledger) : Prop := l.totalAssets = l.totalSupply

theorem AtPar.sharesFor_eq (h : l.AtPar) (assets : Int) : l.sharesFor assets = assets := by
  unfold AtPar at h
  unfold sharesFor
  split
  · rfl
  · rw [h]
    exact Int.mul_fdiv_cancel assets (by omega)

theorem AtPar.assetsFor_eq (h : l.AtPar) (shares : Int) : l.assetsFor shares = shares := by
  unfold AtPar at h
  unfold assetsFor
  split
  · rfl
  · next hsupply =>
    rw [h]
    exact Int.mul_fdiv_cancel shares hsupply

/-- A trade moves the assets and the supply by the same number. -/
theorem AtPar.post (h : l.AtPar) {r : Receipt} (hr : l.IsDue t r) (hG : r.IsWithin G) :
    (l.post t r).AtPar := by
  cases r with
  | nothing => exact h
  | minted recipient gross shares =>
    obtain ⟨-, -, -, rfl⟩ := hr
    have hminted : l.previewDeposit t gross = t.net gross := h.sharesFor_eq _
    unfold AtPar at h ⊢
    simp only [Ledger.post, afterDeposit, hminted, h]
  | burned holder shares recipient paid =>
    obtain ⟨-, -, rfl⟩ := hr
    have hpaid : l.previewRedeem shares = shares := h.assetsFor_eq _
    unfold AtPar at h ⊢
    simp only [Ledger.post, afterRedeem, hpaid, h]
  | moved change => exact absurd hG id

theorem AtPar.postAll (h : l.AtPar) {rs : List Receipt} (hrs : l.AreDue t rs)
    (hG : ∀ r ∈ rs, r.IsWithin G) : (l.postAll t rs).AtPar := by
  induction rs generalizing l with
  | nil => exact h
  | cons r rs ih =>
    obtain ⟨hr, hrest⟩ := hrs
    have hstep := h.post hr (hG r (List.mem_cons_self ..))
    exact ih hstep hrest fun q hq => hG q (List.mem_cons_of_mem r hq)

end Ledger

end ShareVault
