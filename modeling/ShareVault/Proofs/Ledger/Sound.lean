import ShareVault.Proofs.Ledger.Accounts
import ShareVault.Proofs.Ledger.Receipt
import ShareVault.Proofs.Ledger.Rounding

/-! # Sound ledgers

    A receipt is due when the vault may issue it in the state that it is in: the
    limits are kept, the shares and the assets on it are those of the previews,
    and no loss from outside is greater than the assets.

    A ledger is sound when nobody has less than nothing, the balances add up to
    the supply, and the assets are not negative. The last does not follow from
    the amounts alone: a redeem pays no more than the assets only because the
    shares of one holder are part of the supply.

    Main statements:
    - `Sound.post`: a due receipt keeps a ledger sound;
    - `Sound.postAll`: and so do any number of them.
-/

namespace ShareVault

namespace Ledger

/-- Whether a receipt may be issued by a vault with the ledger. -/
def IsDue (t : Terms) (l : Ledger) : Receipt → Prop
  | .nothing => True
  | .minted recipient gross shares =>
    0 < gross ∧ exceeds gross (l.maxDeposit t recipient) = false ∧ shares ≠ 0
      ∧ shares = l.previewDeposit t gross
  | .burned holder shares _ paid =>
    0 < shares ∧ shares ≤ l.maxRedeem holder ∧ paid = l.previewRedeem shares
  | .moved change => 0 ≤ l.totalAssets + change

/-- Whether receipts may be issued one after the other. -/
def AreDue (t : Terms) (l : Ledger) : List Receipt → Prop
  | [] => True
  | r :: rs => l.IsDue t r ∧ (l.post t r).AreDue t rs

/-- Nothing is negative, every address has one account, and the balances are the
    supply. -/
structure Sound (l : Ledger) : Prop where
  assets_nonneg : 0 ≤ l.totalAssets
  balances_nonneg : ∀ a, 0 ≤ l.balances.get a
  keys_nodup : l.balances.keys.Nodup
  total_balances : l.balances.total = l.totalSupply

theorem Sound.empty : Sound Ledger.empty where
  assets_nonneg := Int.le_refl 0
  balances_nonneg := fun _ => Int.le_refl 0
  keys_nodup := List.nodup_nil
  total_balances := rfl

namespace Sound

variable {t : Terms} {l : Ledger}

theorem supply_nonneg (hl : l.Sound) : 0 ≤ l.totalSupply := by
  rw [← hl.total_balances]
  exact Accounts.total_nonneg hl.keys_nodup hl.balances_nonneg

/-- Supplies compare like the balances. -/
theorem supply_le {l' : Ledger} (hl : l.Sound) (hl' : l'.Sound)
    (h : ∀ a, l.balances.get a ≤ l'.balances.get a) : l.totalSupply ≤ l'.totalSupply := by
  rw [← hl.total_balances, ← hl'.total_balances]
  exact Accounts.total_le_total hl.keys_nodup hl'.keys_nodup h

/-- The shares of one holder are part of the supply. -/
theorem maxRedeem_le_supply (hl : l.Sound) (owner : Text) :
    l.maxRedeem owner ≤ l.totalSupply := by
  rw [← hl.total_balances]
  exact Accounts.get_le_total hl.keys_nodup hl.balances_nonneg owner

/-- A deposit mints no negative number of shares. -/
theorem previewDeposit_nonneg (hl : l.Sound) (ht : t.IsFair) {amount : Int} (h : 0 ≤ amount) :
    0 ≤ l.previewDeposit t amount :=
  sharesFor_nonneg hl.assets_nonneg hl.supply_nonneg (Terms.net_nonneg ht h)

/-- Shares that somebody has are worth no more than all assets. -/
theorem previewRedeem_le_assets (hl : l.Sound) {shares : Int} {owner : Text} (h : 0 < shares)
    (hmax : shares ≤ l.maxRedeem owner) : l.previewRedeem shares ≤ l.totalAssets := by
  have hsupply := hl.maxRedeem_le_supply owner
  exact assetsFor_le hl.assets_nonneg (by omega) (by omega)

theorem keys_nodup_post (hl : l.Sound) (r : Receipt) :
    (l.post t r).balances.keys.Nodup := by
  cases r with
  | minted recipient gross shares => exact Accounts.keys_nodup_add hl.keys_nodup recipient shares
  | burned holder shares recipient paid =>
    exact Accounts.keys_nodup_add hl.keys_nodup holder (-shares)
  | nothing => exact hl.keys_nodup
  | moved change => exact hl.keys_nodup

theorem total_balances_post (hl : l.Sound) (r : Receipt) :
    (l.post t r).balances.total = (l.post t r).totalSupply := by
  have htotal := hl.total_balances
  cases r with
  | minted recipient gross shares =>
    simp only [Ledger.post, afterDeposit, Accounts.total_add]
    omega
  | burned holder shares recipient paid =>
    simp only [Ledger.post, afterRedeem, Accounts.total_add]
    omega
  | nothing => exact htotal
  | moved change => exact htotal

/-- Only the holder who redeems has fewer shares than before, and never fewer
    than none. -/
theorem balances_nonneg_post (hl : l.Sound) (ht : t.IsFair) {r : Receipt} (hr : l.IsDue t r)
    (a : Text) : 0 ≤ (l.post t r).balances.get a := by
  have hbefore := hl.balances_nonneg a
  rw [get_balances_post]
  cases r with
  | minted recipient gross shares =>
    obtain ⟨hgross, -, -, hshares⟩ := hr
    have hminted := hl.previewDeposit_nonneg ht (Int.le_of_lt hgross)
    simp only [Receipt.mintedTo, Receipt.burnedFrom]
    split
    · omega
    · omega
  | burned holder shares recipient paid =>
    obtain ⟨-, hmax, -⟩ := hr
    simp only [Receipt.mintedTo, Receipt.burnedFrom]
    split
    · next heq =>
      subst heq
      have : shares ≤ l.balances.get holder := hmax
      omega
    · omega
  | nothing =>
    simp only [Receipt.mintedTo, Receipt.burnedFrom]
    omega
  | moved change =>
    simp only [Receipt.mintedTo, Receipt.burnedFrom]
    omega

theorem assets_nonneg_post (hl : l.Sound) (ht : t.IsFair) {r : Receipt} (hr : l.IsDue t r) :
    0 ≤ (l.post t r).totalAssets := by
  have hbefore := hl.assets_nonneg
  cases r with
  | nothing => exact hbefore
  | minted recipient gross shares =>
    have hnet := Terms.net_nonneg ht (Int.le_of_lt hr.1)
    simp only [Ledger.post, afterDeposit]
    omega
  | burned holder shares recipient paid =>
    -- What is paid is part of the assets as what is burned is part of the supply.
    obtain ⟨hshares, hmax, rfl⟩ := hr
    have hpaid := hl.previewRedeem_le_assets hshares hmax
    simp only [Ledger.post, afterRedeem]
    omega
  | moved change => exact hr

/-- A due receipt keeps a ledger sound. -/
theorem post (hl : l.Sound) (ht : t.IsFair) {r : Receipt} (hr : l.IsDue t r) :
    (l.post t r).Sound where
  assets_nonneg := hl.assets_nonneg_post ht hr
  balances_nonneg := hl.balances_nonneg_post ht hr
  keys_nodup := hl.keys_nodup_post r
  total_balances := hl.total_balances_post r

/-- A ledger stays sound as long as only due receipts are issued. -/
theorem postAll (hl : l.Sound) (ht : t.IsFair) {rs : List Receipt} (hrs : l.AreDue t rs) :
    (l.postAll t rs).Sound := by
  induction rs generalizing l with
  | nil => exact hl
  | cons r rs ih =>
    obtain ⟨hr, hrest⟩ := hrs
    exact ih (hl.post ht hr) hrest

end Sound

end Ledger

end ShareVault
