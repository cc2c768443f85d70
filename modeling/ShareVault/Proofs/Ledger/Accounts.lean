import ShareVault.Ledger.Accounts
import Mathlib.Algebra.BigOperators.Group.Finset.Basic
import Mathlib.Algebra.Order.BigOperators.Group.Finset
import Mathlib.Algebra.Order.Ring.Int

/-! # Totals of accounts

    As long as every address has one account, the total is the sum of what the
    addresses have, over any set of addresses that holds all of them. Totals can
    then be compared address by address.

    Main statements:
    - `keys_nodup_add`: adding to an account opens at most one, for a new address;
    - `total_eq_sum`: the total as a sum over addresses;
    - `total_le_total`: totals compare like the accounts.
-/

namespace ShareVault.Accounts

/-- The addresses with an account, in order. -/
def keys (s : Accounts) : List Text := s.map Prod.fst

@[simp] theorem keys_nil : keys [] = [] := rfl

@[simp] theorem keys_cons (p : Text × Int) (s : Accounts) : keys (p :: s) = p.1 :: keys s := rfl

/-- The address that is added to is the only one that may come up. -/
theorem mem_keys_add {a b : Text} {n : Int} {s : Accounts} (h : b ∈ keys (add a n s)) :
    b = a ∨ b ∈ keys s := by
  induction s with
  | nil =>
    simp only [add, keys_cons, keys_nil, List.mem_singleton] at h
    exact Or.inl h
  | cons p s ih =>
    obtain ⟨c, m⟩ := p
    unfold add at h
    split at h
    · exact Or.inr h
    · rw [keys_cons, List.mem_cons] at h
      rcases h with hb | hs
      · exact Or.inr (List.mem_cons.mpr (Or.inl hb))
      · rcases ih hs with ha | hk
        · exact Or.inl ha
        · exact Or.inr (List.mem_cons_of_mem _ hk)

theorem keys_nodup_add {s : Accounts} (h : (keys s).Nodup) (a : Text) (n : Int) :
    (keys (add a n s)).Nodup := by
  induction s with
  | nil => simp [add]
  | cons p s ih =>
    obtain ⟨c, m⟩ := p
    obtain ⟨hc, hs⟩ := List.nodup_cons.mp h
    unfold add
    split
    · exact h
    · next hne =>
      -- The first account stays; its address does not come up again further on.
      refine List.nodup_cons.mpr ⟨?_, ih hs⟩
      intro hmem
      rcases mem_keys_add hmem with ha | hk
      · exact hne ha
      · exact hc hk

theorem get_of_not_mem {a : Text} {s : Accounts} (h : a ∉ keys s) : get a s = 0 := by
  induction s with
  | nil => rfl
  | cons p s ih =>
    obtain ⟨c, m⟩ := p
    rw [keys_cons, List.mem_cons, not_or] at h
    unfold get
    rw [if_neg (Ne.symm h.1)]
    exact ih h.2

/-- The total is the sum over any set of addresses with all accounts in it. -/
theorem total_eq_sum {s : Accounts} (h : (keys s).Nodup) {K : Finset Text}
    (hK : ∀ a ∈ keys s, a ∈ K) : total s = ∑ a ∈ K, get a s := by
  induction s generalizing K with
  | nil => simp [total, get]
  | cons p s ih =>
    obtain ⟨c, m⟩ := p
    obtain ⟨hc, hs⟩ := List.nodup_cons.mp h
    have hcK : c ∈ K := hK c (List.mem_cons_self ..)
    -- The first address has `m`, and no other account; the rest do not notice it.
    have hrest : total s = ∑ a ∈ K.erase c, get a s := by
      apply ih hs
      intro a ha
      refine Finset.mem_erase.mpr ⟨?_, hK a (List.mem_cons_of_mem _ ha)⟩
      rintro rfl
      exact hc ha
    have hsame : ∑ a ∈ K.erase c, get a ((c, m) :: s) = ∑ a ∈ K.erase c, get a s := by
      apply Finset.sum_congr rfl
      intro a ha
      have hne : c ≠ a := Ne.symm (Finset.ne_of_mem_erase ha)
      simp [get, hne]
    rw [← Finset.add_sum_erase K (fun a => get a ((c, m) :: s)) hcK, hsame, ← hrest]
    simp [total, get]

theorem total_le_total {s t : Accounts} (hs : (keys s).Nodup) (ht : (keys t).Nodup)
    (h : ∀ a, get a s ≤ get a t) : total s ≤ total t := by
  have hK : ∀ a ∈ keys s, a ∈ (keys s ++ keys t).toFinset := by
    intro a ha
    simp [ha]
  have hL : ∀ a ∈ keys t, a ∈ (keys s ++ keys t).toFinset := by
    intro a ha
    simp [ha]
  rw [total_eq_sum hs hK, total_eq_sum ht hL]
  exact Finset.sum_le_sum fun a _ => h a

theorem total_nonneg {s : Accounts} (hs : (keys s).Nodup) (h : ∀ a, 0 ≤ get a s) :
    0 ≤ total s :=
  total_le_total (s := []) List.nodup_nil hs h

/-- Nobody has more than there is. -/
theorem get_le_total {s : Accounts} (hs : (keys s).Nodup) (h : ∀ a, 0 ≤ get a s) (a : Text) :
    get a s ≤ total s := by
  by_cases ha : a ∈ keys s
  · rw [total_eq_sum hs (K := (keys s).toFinset) fun b hb => List.mem_toFinset.mpr hb]
    exact Finset.single_le_sum (f := fun b => get b s) (fun b _ => h b) (List.mem_toFinset.mpr ha)
  · rw [get_of_not_mem ha]
    exact total_nonneg hs h

end ShareVault.Accounts
