import ShareVault.Json.Parser
import ShareVault.Ledger.Accounts

/-! # The ledger of a share vault

    Depositors share the assets of the vault in proportion to their vault
    tokens. A deposit mints shares for the assets left after a fee, a redeem
    burns shares and pays assets; both conversions round down, in favour of the
    other holders, and the fee rounds up, in favour of the vault.

    ## State
    - `totalAssets`, `totalSupply`: what the vault holds, and the shares there are;
    - `balances`: the shares by holder;
    - `feesCollected`, `deposited`, `paidOut`: what went in and out so far.

    ## Actions
    - `deposit`, `redeem`: every check runs before anything changes.

    Main statements:
    - `deposit_eq_ok_iff`, `redeem_eq_ok_iff`: when an action is accepted, what
      it returns, and the ledger after it.
-/

namespace ShareVault

/-- The terms on which a vault takes deposits. -/
structure Terms where
  /-- The deposit fee in hundredths of a percent. -/
  feeBps : Int
  /-- A bound on the assets of the vault. -/
  depositCap : Option Int
  /-- A bound on what one recipient may deposit in total. -/
  userDepositCap : Option Int
  depositsEnabled : Bool
deriving DecidableEq, Repr

/-- The accounts of a vault. -/
structure Ledger where
  totalAssets : Int
  totalSupply : Int
  feesCollected : Int
  balances : Accounts
  deposited : Accounts
  paidOut : Accounts
deriving DecidableEq, Repr

/-- Why an action is refused. -/
inductive Refusal where
  | zeroDeposit
  | zeroRedeem
  /-- The amount of a deposit is not what was attached to the call. -/
  | depositFunds (amount funds : Int)
  /-- The amount of a redeem is not what was attached to the call. -/
  | redeemFunds (amount funds : Int)
  | limitExceeded (amount limit : Int)
  /-- The deposit is worth less than one share. -/
  | mintsNothing (amount : Int)
  /-- A number in the message of the refusal has too many digits to be written. -/
  | numeralTooLong
deriving DecidableEq, Repr

/-- The wording of a refusal. -/
def Refusal.message : Refusal → Text
  | .zeroDeposit => "Deposit amount must be nonzero"
  | .zeroRedeem => "Redeem amount must be nonzero"
  | .depositFunds amount funds =>
    "Deposit amount " ++ Text.ofInt amount ++ " does not match attached funds "
      ++ Text.ofInt funds
  | .redeemFunds amount funds =>
    "Redeem amount " ++ Text.ofInt amount ++ " does not match attached vault tokens "
      ++ Text.ofInt funds
  | .limitExceeded amount limit =>
    "Amount " ++ Text.ofInt amount ++ " exceeds limit " ++ Text.ofInt limit
  | .mintsNothing amount =>
    "Deposit of " ++ Text.ofInt amount ++ " would mint no vault tokens"
  | .numeralTooLong =>
    "Exceeds the limit (" ++ Text.decimal Json.maxDigits
      ++ " digits) for integer string conversion; use sys.set_int_max_str_digits() to increase "
      ++ "the limit"

/-- What is raised when the funds are not the amount. The message states both numbers
    and is made first, so a number that cannot be written is what fails. Amounts are of
    128 bits; the funds may be any number. -/
def Refusal.ofFunds (refusal : Int → Int → Refusal) (amount funds : Int) : Refusal :=
  if Json.isConvertible amount && Json.isConvertible funds then refusal amount funds
  else .numeralTooLong

namespace Terms

/-- The whole in hundredths of a percent. -/
def bpsWhole : Int := 10000

/-- The fee of a deposit, rounded up. -/
def fee (t : Terms) (amount : Int) : Int := -((-amount * t.feeBps).fdiv bpsWhole)

/-- What is left of a deposit after the fee. -/
def net (t : Terms) (amount : Int) : Int := amount - t.fee amount

end Terms

namespace Ledger

/-- A ledger without entries. -/
def empty : Ledger :=
  { totalAssets := 0, totalSupply := 0, feesCollected := 0
    balances := [], deposited := [], paidOut := [] }

/-! ## Conversions -/

/-- The shares that assets are worth, rounded down; one for one while there is
    no price. -/
def sharesFor (l : Ledger) (assets : Int) : Int :=
  if l.totalSupply = 0 ∨ l.totalAssets = 0 then assets
  else (assets * l.totalSupply).fdiv l.totalAssets

/-- The assets that shares are worth, rounded down; one for one while there are
    no shares. -/
def assetsFor (l : Ledger) (shares : Int) : Int :=
  if l.totalSupply = 0 then shares else (shares * l.totalAssets).fdiv l.totalSupply

/-- The shares that a deposit would mint now. -/
def previewDeposit (t : Terms) (l : Ledger) (amount : Int) : Int := l.sharesFor (t.net amount)

/-- The assets that a redeem would pay now. -/
def previewRedeem (l : Ledger) (amount : Int) : Int := l.assetsFor amount

/-! ## Limits -/

/-- The lesser of two bounds, each of which may be missing. -/
def lesser : Option Int → Option Int → Option Int
  | some a, some b => some (min a b)
  | some a, none => some a
  | none, b => b

/-- A bound on what may be deposited for a recipient now. -/
def maxDeposit (t : Terms) (l : Ledger) (recipient : Text) : Option Int :=
  if t.depositsEnabled then
    lesser (t.depositCap.map fun cap => max (cap - l.totalAssets) 0)
      (t.userDepositCap.map fun cap => max (cap - l.deposited.get recipient) 0)
  else some 0

/-- The shares that an owner may redeem now. -/
def maxRedeem (l : Ledger) (owner : Text) : Int := l.balances.get owner

/-- Whether an amount is above a bound. -/
def exceeds (amount : Int) : Option Int → Bool
  | some limit => limit < amount
  | none => false

/-! ## Actions -/

/-- The ledger after a deposit of `amount` that minted `shares`. -/
def afterDeposit (t : Terms) (l : Ledger) (amount shares : Int) (recipient : Text) : Ledger :=
  { l with
    totalAssets := l.totalAssets + t.net amount
    feesCollected := l.feesCollected + t.fee amount
    totalSupply := l.totalSupply + shares
    balances := l.balances.add recipient shares
    deposited := l.deposited.add recipient amount }

/-- Deposits the attached funds for a recipient; gives the shares minted. -/
def deposit (t : Terms) (l : Ledger) (amount funds : Int) (recipient : Text) :
    Except Refusal (Int × Ledger) :=
  if amount = 0 then .error .zeroDeposit
  else if funds ≠ amount then .error (.ofFunds .depositFunds amount funds)
  else
    match l.maxDeposit t recipient with
    | some limit =>
      if limit < amount then .error (.limitExceeded amount limit) else mint
    | none => mint
where
  /-- The part of a deposit within the limit. -/
  mint : Except Refusal (Int × Ledger) :=
    let shares := l.previewDeposit t amount
    if shares = 0 then .error (.mintsNothing amount)
    else .ok (shares, l.afterDeposit t amount shares recipient)

/-- The ledger after a redeem of `amount` that paid `assets`. -/
def afterRedeem (l : Ledger) (amount assets : Int) (sender recipient : Text) : Ledger :=
  { l with
    balances := l.balances.add sender (-amount)
    totalSupply := l.totalSupply - amount
    totalAssets := l.totalAssets - assets
    paidOut := l.paidOut.add recipient assets }

/-- Redeems the attached vault tokens of a sender; gives the assets paid to the
    recipient. -/
def redeem (l : Ledger) (amount funds : Int) (sender recipient : Text) :
    Except Refusal (Int × Ledger) :=
  if amount = 0 then .error .zeroRedeem
  else if funds ≠ amount then .error (.ofFunds .redeemFunds amount funds)
  else if l.maxRedeem sender < amount then
    .error (.limitExceeded amount (l.maxRedeem sender))
  else
    let assets := l.previewRedeem amount
    .ok (assets, l.afterRedeem amount assets sender recipient)

/-- A deposit is accepted exactly when it is not zero, matches the funds, is
    within the limit and mints something. -/
theorem deposit_eq_ok_iff {t : Terms} {l : Ledger} {amount funds : Int} {recipient : Text}
    {p : Int × Ledger} :
    l.deposit t amount funds recipient = .ok p ↔
      amount ≠ 0 ∧ funds = amount ∧ exceeds amount (l.maxDeposit t recipient) = false
        ∧ p.1 ≠ 0 ∧ p = (l.previewDeposit t amount,
            l.afterDeposit t amount (l.previewDeposit t amount) recipient) := by
  -- Within the limit, only a deposit that mints nothing is refused.
  have hm : deposit.mint t l amount recipient = .ok p ↔ p.1 ≠ 0 ∧
      p = (l.previewDeposit t amount,
        l.afterDeposit t amount (l.previewDeposit t amount) recipient) := by
    simp only [deposit.mint]
    by_cases hz : l.previewDeposit t amount = 0
    · simp only [hz, if_true]
      constructor
      · intro h; cases h
      · rintro ⟨h0, rfl⟩; exact absurd rfl h0
    · simp only [hz, if_false, Except.ok.injEq]
      constructor
      · rintro rfl; exact ⟨hz, rfl⟩
      · rintro ⟨_, rfl⟩; rfl
  -- The checks in the order in which they run; `mint` is what is left.
  simp only [deposit]
  by_cases h0 : amount = 0
  · simp [h0]
  by_cases hf : funds = amount
  · cases hl : l.maxDeposit t recipient with
    | none => simp [h0, hf, hm, exceeds]
    | some limit =>
      by_cases hlt : limit < amount
      · simp [h0, hf, hlt, exceeds]
      · simp [h0, hf, hlt, hm, exceeds]
  · simp [h0, hf]

/-- A redeem is accepted exactly when it is not zero, matches the funds and is
    within the balance. -/
theorem redeem_eq_ok_iff {l : Ledger} {amount funds : Int} {sender recipient : Text}
    {p : Int × Ledger} :
    l.redeem amount funds sender recipient = .ok p ↔
      amount ≠ 0 ∧ funds = amount ∧ amount ≤ l.maxRedeem sender
        ∧ p = (l.previewRedeem amount,
            l.afterRedeem amount (l.previewRedeem amount) sender recipient) := by
  -- The checks in the order in which they run.
  simp only [redeem]
  by_cases h0 : amount = 0
  · simp [h0]
  by_cases hf : funds = amount
  · by_cases hl : l.maxRedeem sender < amount
    · simp [h0, hf, hl, Int.not_le.mpr hl]
    · simp only [h0, hf, hl, if_false, ne_eq, not_true_eq_false, not_false_eq_true, true_and,
        Except.ok.injEq, Int.not_lt.mp hl]
      exact eq_comm
  · simp [h0, hf]

end Ledger

end ShareVault
