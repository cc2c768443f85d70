import ShareVault.Ledger.Basic

/-! # Receipts

    Whatever happens to a vault, its accounts change in one of four ways, and a
    receipt says in which one and by how much. A run of a vault leaves a list of
    receipts, and every account can be read off that list.

    ## Receipts
    - `nothing`: the accounts are as before;
    - `minted`, `burned`: a deposit and a redeem that were accepted;
    - `moved`: the assets changed from outside, by yield or a loss.

    Main statements:
    - `get_balances_postAll`, `get_deposited_postAll`, `get_paidOut_postAll`: the
      accounts of an address after a list of receipts;
    - `surplus_postAll`: what went in, went out and is there adds up.
-/

namespace ShareVault

/-- What happened to the accounts of a vault. -/
inductive Receipt where
  | nothing
  /-- A deposit of a gross amount minted shares to a recipient. -/
  | minted (recipient : Text) (gross shares : Int)
  /-- A redeem burned shares of a holder and paid assets to a recipient. -/
  | burned (holder : Text) (shares : Int) (recipient : Text) (paid : Int)
  /-- The assets changed from outside. -/
  | moved (change : Int)
deriving DecidableEq, Repr

namespace Receipt

/-! ## What a receipt is worth -/

/-- The shares minted to an address. -/
def mintedTo (a : Text) : Receipt → Int
  | .minted recipient _ shares => if recipient = a then shares else 0
  | _ => 0

/-- The shares that an address redeemed. -/
def burnedFrom (a : Text) : Receipt → Int
  | .burned holder shares _ _ => if holder = a then shares else 0
  | _ => 0

/-- The gross amount of a deposit that is credited to an address. -/
def creditedTo (a : Text) : Receipt → Int
  | .minted recipient gross _ => if recipient = a then gross else 0
  | _ => 0

/-- The assets that a redeem sent to an address. -/
def sentTo (a : Text) : Receipt → Int
  | .burned _ _ recipient paid => if recipient = a then paid else 0
  | _ => 0

/-- The gross amount of a deposit, whomever it is credited to. -/
def gross : Receipt → Int
  | .minted _ gross _ => gross
  | _ => 0

/-- The fee that was charged on the terms of the vault. -/
def fee (t : Terms) : Receipt → Int
  | .minted _ gross _ => t.fee gross
  | _ => 0

/-- The assets that a redeem paid, whomever they were sent to. -/
def paid : Receipt → Int
  | .burned _ _ _ paid => paid
  | _ => 0

/-- The change of the assets from outside. -/
def yielded : Receipt → Int
  | .moved change => change
  | _ => 0

/-- The sum of what some receipts are worth. -/
def sum (worth : Receipt → Int) : List Receipt → Int
  | [] => 0
  | r :: rs => worth r + sum worth rs

@[simp] theorem sum_nil (worth : Receipt → Int) : sum worth [] = 0 := rfl

@[simp] theorem sum_cons (worth : Receipt → Int) (r : Receipt) (rs : List Receipt) :
    sum worth (r :: rs) = worth r + sum worth rs := rfl

theorem sum_eq_zero {worth : Receipt → Int} {rs : List Receipt} (h : ∀ r ∈ rs, worth r = 0) :
    sum worth rs = 0 := by
  induction rs with
  | nil => rfl
  | cons r rs ih =>
    rw [sum_cons, h r (List.mem_cons_self ..), ih fun q hq => h q (List.mem_cons_of_mem r hq)]
    rfl

end Receipt

namespace Ledger

open Receipt

/-- The ledger after the assets changed from outside. -/
def shift (l : Ledger) (change : Int) : Ledger :=
  { l with totalAssets := l.totalAssets + change }

/-- The ledger after what a receipt says. -/
def post (t : Terms) (l : Ledger) : Receipt → Ledger
  | .nothing => l
  | .minted recipient gross shares => l.afterDeposit t gross shares recipient
  | .burned holder shares recipient paid => l.afterRedeem shares paid holder recipient
  | .moved change => l.shift change

/-- The ledger after what some receipts say, one after the other. -/
def postAll (t : Terms) (l : Ledger) : List Receipt → Ledger
  | [] => l
  | r :: rs => (l.post t r).postAll t rs

/-! ## The accounts of an address -/

theorem get_balances_post (t : Terms) (l : Ledger) (r : Receipt) (a : Text) :
    (l.post t r).balances.get a = l.balances.get a + r.mintedTo a - r.burnedFrom a := by
  cases r with
  | nothing => simp [post, mintedTo, burnedFrom]
  | minted recipient gross shares =>
    by_cases h : recipient = a
    · subst h
      simp [post, afterDeposit, mintedTo, burnedFrom]
    · simp [post, afterDeposit, mintedTo, burnedFrom, h, Accounts.get_add_ne (Ne.symm h)]
  | burned holder shares recipient paid =>
    by_cases h : holder = a
    · subst h
      simp [post, afterRedeem, mintedTo, burnedFrom]
      omega
    · simp [post, afterRedeem, mintedTo, burnedFrom, h, Accounts.get_add_ne (Ne.symm h)]
  | moved change => simp [post, shift, mintedTo, burnedFrom]

theorem get_deposited_post (t : Terms) (l : Ledger) (r : Receipt) (a : Text) :
    (l.post t r).deposited.get a = l.deposited.get a + r.creditedTo a := by
  cases r with
  | minted recipient gross shares =>
    by_cases h : recipient = a
    · subst h
      simp [post, afterDeposit, creditedTo]
    · simp [post, afterDeposit, creditedTo, h, Accounts.get_add_ne (Ne.symm h)]
  | nothing => simp [post, creditedTo]
  | burned holder shares recipient paid => simp [post, afterRedeem, creditedTo]
  | moved change => simp [post, shift, creditedTo]

theorem get_paidOut_post (t : Terms) (l : Ledger) (r : Receipt) (a : Text) :
    (l.post t r).paidOut.get a = l.paidOut.get a + r.sentTo a := by
  cases r with
  | burned holder shares recipient paid =>
    by_cases h : recipient = a
    · subst h
      simp [post, afterRedeem, sentTo]
    · simp [post, afterRedeem, sentTo, h, Accounts.get_add_ne (Ne.symm h)]
  | nothing => simp [post, sentTo]
  | minted recipient gross shares => simp [post, afterDeposit, sentTo]
  | moved change => simp [post, shift, sentTo]

theorem get_balances_postAll (t : Terms) (l : Ledger) (rs : List Receipt) (a : Text) :
    (l.postAll t rs).balances.get a
      = l.balances.get a + sum (mintedTo a) rs - sum (burnedFrom a) rs := by
  induction rs generalizing l with
  | nil => simp [postAll]
  | cons r rs ih =>
    unfold postAll
    rw [ih, get_balances_post, sum_cons, sum_cons]
    omega

theorem get_deposited_postAll (t : Terms) (l : Ledger) (rs : List Receipt) (a : Text) :
    (l.postAll t rs).deposited.get a = l.deposited.get a + sum (creditedTo a) rs := by
  induction rs generalizing l with
  | nil => simp [postAll]
  | cons r rs ih =>
    unfold postAll
    rw [ih, get_deposited_post, sum_cons]
    omega

theorem get_paidOut_postAll (t : Terms) (l : Ledger) (rs : List Receipt) (a : Text) :
    (l.postAll t rs).paidOut.get a = l.paidOut.get a + sum (sentTo a) rs := by
  induction rs generalizing l with
  | nil => simp [postAll]
  | cons r rs ih =>
    unfold postAll
    rw [ih, get_paidOut_post, sum_cons]
    omega

/-! ## Conservation -/

/-- What the vault holds, has kept as fees and has paid, less what was deposited. -/
def surplus (l : Ledger) : Int :=
  l.totalAssets + l.feesCollected + l.paidOut.total - l.deposited.total

/-- Only a change from outside is not balanced within the vault. -/
theorem surplus_post (t : Terms) (l : Ledger) (r : Receipt) :
    (l.post t r).surplus = l.surplus + r.yielded := by
  cases r with
  | nothing => simp [post, yielded]
  | minted recipient gross shares =>
    have hgross : t.net gross + t.fee gross = gross := by
      unfold Terms.net
      omega
    simp only [post, afterDeposit, surplus, yielded, Accounts.total_add]
    omega
  | burned holder shares recipient paid =>
    simp only [post, afterRedeem, surplus, yielded, Accounts.total_add]
    omega
  | moved change =>
    simp only [post, shift, surplus, yielded]
    omega

theorem surplus_postAll (t : Terms) (l : Ledger) (rs : List Receipt) :
    (l.postAll t rs).surplus = l.surplus + sum yielded rs := by
  induction rs generalizing l with
  | nil => simp [postAll]
  | cons r rs ih =>
    unfold postAll
    rw [ih, surplus_post, sum_cons]
    omega

theorem totalAssets_post (t : Terms) (l : Ledger) (r : Receipt) :
    (l.post t r).totalAssets = l.totalAssets + r.gross - r.fee t - r.paid + r.yielded := by
  cases r <;> simp only [post, afterDeposit, afterRedeem, shift, gross, fee, paid, yielded, Terms.net]
    <;> omega

/-- The assets are what was deposited less the fees, less what was paid, and what
    came from outside. -/
theorem totalAssets_postAll (t : Terms) (l : Ledger) (rs : List Receipt) :
    (l.postAll t rs).totalAssets
      = l.totalAssets + sum gross rs - sum (fee t) rs - sum paid rs + sum yielded rs := by
  induction rs generalizing l with
  | nil => simp [postAll]
  | cons r rs ih =>
    unfold postAll
    rw [ih, totalAssets_post]
    simp only [sum_cons]
    omega

theorem feesCollected_postAll (t : Terms) (l : Ledger) (rs : List Receipt) :
    (l.postAll t rs).feesCollected = l.feesCollected + sum (fee t) rs := by
  induction rs generalizing l with
  | nil => simp [postAll]
  | cons r rs ih =>
    have hr : (l.post t r).feesCollected = l.feesCollected + r.fee t := by
      cases r <;> simp [post, afterDeposit, afterRedeem, shift, fee]
    unfold postAll
    rw [ih, hr, sum_cons]
    omega

end Ledger

end ShareVault
