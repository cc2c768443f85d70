import ShareVault.Text.Basic

/-! # Accounts

    Amounts by address, in the order in which the addresses came up. An address
    that did not come up has nothing.

    Main statements:
    - `get_add_self`, `get_add_ne`: adding to one account leaves the others;
    - `total_add`: and the total grows by what was added.
-/

namespace ShareVault

/-- Amounts by address. -/
abbrev Accounts := List (Text × Int)

namespace Accounts

/-- The amount of an address. -/
def get (a : Text) : Accounts → Int
  | [] => 0
  | (b, n) :: rest => if b = a then n else get a rest

/-- Adds to the amount of an address. -/
def add (a : Text) (n : Int) : Accounts → Accounts
  | [] => [(a, n)]
  | (b, m) :: rest => if b = a then (b, m + n) :: rest else (b, m) :: add a n rest

/-- The sum of all amounts. -/
def total : Accounts → Int
  | [] => 0
  | (_, n) :: rest => n + total rest

@[simp] theorem get_add_self (a : Text) (n : Int) (s : Accounts) :
    get a (add a n s) = get a s + n := by
  induction s with
  | nil => simp [add, get]
  | cons p s ih =>
    obtain ⟨b, m⟩ := p
    by_cases h : b = a <;> simp [add, get, h, ih]

theorem get_add_ne {a b : Text} (h : b ≠ a) (n : Int) (s : Accounts) :
    get b (add a n s) = get b s := by
  induction s with
  | nil => simp [add, get, Ne.symm h]
  | cons p s ih =>
    obtain ⟨c, m⟩ := p
    -- Either the account in front grows, or it is passed over.
    by_cases hc : c = a
    · subst hc
      simp [add, get, Ne.symm h]
    · simp [add, get, hc, ih]

@[simp] theorem total_add (a : Text) (n : Int) (s : Accounts) :
    total (add a n s) = total s + n := by
  induction s with
  | nil => simp [add, total]
  | cons p s ih =>
    obtain ⟨b, m⟩ := p
    by_cases h : b = a
    · simp [add, total, h]; omega
    · simp [add, total, h, ih]; omega

end Accounts

end ShareVault
