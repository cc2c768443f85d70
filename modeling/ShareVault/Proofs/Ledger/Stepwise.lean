import ShareVault.Ledger.Basic

/-! # Actions assignment by assignment

    An action checks, then changes one field of the ledger after the other. A
    program that stops in between leaves the changes it has made so far. Here the
    actions are written as such programs, with their checks and assignments in
    the order in which they run, and shown to be all or nothing.

    ## Programs
    - `depositSteps`: four checks, then five assignments;
    - `redeemSteps`: three checks, then four assignments, of which the first one
      stops where the sender has no account to take from.

    Main statements:
    - `exec_depositSteps`: the program does what `deposit` says, and where it
      stops it has changed nothing;
    - `exec_redeemSteps`: so does the other one for unsigned amounts, and it
      never lacks an account.
-/

namespace ShareVault.Ledger

/-- Why a program stops before its end. -/
inductive Stop where
  | refused (r : Refusal)
  /-- There is no account to take from. -/
  | noAccount (owner : Text)

/-- Programs that work on a ledger. What was assigned before a stop stays. -/
abbrev Steps (α : Type) := ExceptT Stop (StateM Ledger) α

namespace Steps

variable {α β : Type}

/-- What a program gives, and the ledger when it ends or stops. -/
def exec (p : Steps α) (l : Ledger) : Except Stop α × Ledger := p.run.run l

@[simp] theorem exec_pure (a : α) (l : Ledger) : exec (pure a) l = (.ok a, l) := rfl

@[simp] theorem exec_throw (e : Stop) (l : Ledger) :
    exec (throw e : Steps α) l = (.error e, l) := rfl

@[simp] theorem exec_get (l : Ledger) : exec get l = (.ok l, l) := rfl

@[simp] theorem exec_modify (f : Ledger → Ledger) (l : Ledger) :
    exec (modify f) l = (.ok (), f l) := rfl

/-- A stop in the first part is one of the whole, with the changes so far. -/
@[simp] theorem exec_bind (p : Steps α) (f : α → Steps β) (l : Ledger) :
    exec (p >>= f) l = match exec p l with
      | (.ok a, l') => exec (f a) l'
      | (.error e, l') => (.error e, l') := by
  have hbind : exec (p >>= f) l = (ExceptT.bindCont f (p.run.run l).1).run (p.run.run l).2 := rfl
  rw [hbind]
  unfold exec
  cases p.run.run l with
  | mk outcome l' => cases outcome <;> rfl

@[simp] theorem exec_map (f : α → β) (p : Steps α) (l : Ledger) :
    exec (f <$> p) l = ((exec p l).1.map f, (exec p l).2) := by
  rw [map_eq_pure_bind, exec_bind]
  cases exec p l with
  | mk outcome l' => cases outcome <;> rfl

end Steps

/-- Stops an amount above a bound. -/
def checkLimit (amount : Int) : Option Int → Steps Unit
  | some limit => if limit < amount then throw (.refused (.limitExceeded amount limit)) else pure ()
  | none => pure ()

/-- Takes an amount from an account, if there is one. -/
def takeFrom (owner : Text) (amount : Int) : Steps Unit := do
  if (← get).balances.any (fun p => p.1 == owner) then
    modify fun l => { l with balances := l.balances.add owner (-amount) }
  else throw (.noAccount owner)

/-- The part of a deposit within the limit, step by step. -/
def mintSteps (t : Terms) (amount : Int) (recipient : Text) : Steps Int := do
  let fee := t.fee amount
  let shares := (← get).sharesFor (amount - fee)
  if shares = 0 then throw (.refused (.mintsNothing amount))
  modify fun l => { l with totalAssets := l.totalAssets + (amount - fee) }
  modify fun l => { l with feesCollected := l.feesCollected + fee }
  modify fun l => { l with totalSupply := l.totalSupply + shares }
  modify fun l => { l with balances := l.balances.add recipient shares }
  modify fun l => { l with deposited := l.deposited.add recipient amount }
  return shares

/-- A deposit, step by step. -/
def depositSteps (t : Terms) (amount funds : Int) (recipient : Text) : Steps Int := do
  if amount = 0 then throw (.refused .zeroDeposit)
  if funds ≠ amount then throw (.refused (.ofFunds .depositFunds amount funds))
  checkLimit amount ((← get).maxDeposit t recipient)
  mintSteps t amount recipient

/-- A redeem, step by step. -/
def redeemSteps (amount funds : Int) (sender recipient : Text) : Steps Int := do
  if amount = 0 then throw (.refused .zeroRedeem)
  if funds ≠ amount then throw (.refused (.ofFunds .redeemFunds amount funds))
  checkLimit amount (some ((← get).maxRedeem sender))
  let assets := (← get).assetsFor amount
  takeFrom sender amount
  modify fun l => { l with totalSupply := l.totalSupply - amount }
  modify fun l => { l with totalAssets := l.totalAssets - assets }
  modify fun l => { l with paidOut := l.paidOut.add recipient assets }
  return assets

/-! ## All or nothing -/

/-- How an action that is all or nothing ends: with its ledger, or with the one
    it started from. -/
def ended (l : Ledger) : Except Refusal (Int × Ledger) → Except Stop Int × Ledger
  | .ok (n, l') => (.ok n, l')
  | .error r => (.error (.refused r), l)

theorem exec_mintSteps (t : Terms) (l : Ledger) (amount : Int) (recipient : Text) :
    (mintSteps t amount recipient).exec l = l.ended (deposit.mint t l amount recipient) := by
  unfold mintSteps deposit.mint previewDeposit Terms.net
  by_cases hshares : l.sharesFor (amount - t.fee amount) = 0
  · simp [hshares, ended]
  · simp [hshares, ended, afterDeposit, Terms.net, Except.map]

/-- A deposit does what is said of it, and a refused one has changed nothing. -/
theorem exec_depositSteps (t : Terms) (l : Ledger) (amount funds : Int) (recipient : Text) :
    (depositSteps t amount funds recipient).exec l
      = l.ended (l.deposit t amount funds recipient) := by
  unfold depositSteps deposit
  by_cases hzero : amount = 0
  · simp [hzero, ended]
  by_cases hfunds : funds = amount
  · simp only [hzero, hfunds, if_false, ne_eq, not_true_eq_false]
    cases hlimit : l.maxDeposit t recipient with
    | none => simp [hlimit, checkLimit, exec_mintSteps]
    | some limit =>
      by_cases hlt : limit < amount
      · simp [hlimit, hlt, checkLimit, ended]
      · simp [hlimit, hlt, checkLimit, exec_mintSteps]
  · simp [hzero, hfunds, ended]

/-- Only an address with an account has a balance. -/
theorem exists_account {a : Text} {s : Accounts} (h : s.get a ≠ 0) :
    s.any (fun p => p.1 == a) = true := by
  induction s with
  | nil => exact absurd rfl h
  | cons p s ih =>
    obtain ⟨b, n⟩ := p
    by_cases hb : b = a
    · simp [hb]
    · have hrest : Accounts.get a s ≠ 0 := by simpa [Accounts.get, hb] using h
      simp [ih hrest]

/-- A redeem of an unsigned amount does what is said of it, and a refused one has
    changed nothing. -/
theorem exec_redeemSteps (l : Ledger) {amount : Int} (hamount : 0 ≤ amount) (funds : Int)
    (sender recipient : Text) :
    (redeemSteps amount funds sender recipient).exec l
      = l.ended (l.redeem amount funds sender recipient) := by
  unfold redeemSteps redeem
  by_cases hzero : amount = 0
  · simp [hzero, ended]
  by_cases hfunds : funds = amount
  · by_cases hlimit : l.maxRedeem sender < amount
    · simp [hzero, hfunds, hlimit, checkLimit, ended]
    · -- The balance covers a positive amount, so there is an account.
      have haccount : l.balances.any (fun p => p.1 == sender) = true := by
        apply exists_account
        unfold maxRedeem at hlimit
        omega
      simp [hzero, hfunds, hlimit, checkLimit, takeFrom, haccount, ended, previewRedeem,
        afterRedeem, Except.map]
  · simp [hzero, hfunds, ended]

end ShareVault.Ledger
