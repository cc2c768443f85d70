import ShareVault.Proofs.Ledger.Parts
import ShareVault.Proofs.Vault.Answered

/-! # Splitting gains nothing

    Who deposits or redeems an amount bit by bit, with nothing in between, gets no
    more than the preview for all of it. So there is no reason to split an operation,
    and a preview for the whole is a bound for any way to go about it.

    The bits of a redeem are all accepted. Those of a deposit may be refused, for the
    caps, or because a bit is worth less than a share.

    Main statements:
    - `inParts?`: what an amount comes to, bit by bit;
    - `minted_le_preview`, `paid_le_preview`: the preview for the sum is no less;
    - `splitting_gains_nothing`: both, against what the vault answers before.
-/

namespace ShareVault

namespace Vault

variable {H : Type} [Handler H] {v w : Vault H}

/-! ## One after the other -/

/-- What the commands for some amounts return in total, sent one after the other, each
    by its sender and with matching funds, if all of them are accepted. -/
def inParts? (command : Int → Command) (v : Vault H) : List (Text × Int) → Option Int
  | [] => some 0
  | (sender, n) :: parts =>
    match v.execute (command n).toMessage sender n with
    | (.ok (.int first), w) => (first + ·) <$> inParts? command w parts
    | _ => none

theorem inParts?_cons_eq_some {command : Int → Command} {sender : Text} {n : Int}
    {parts : List (Text × Int)} {total : Int} :
    inParts? command v ((sender, n) :: parts) = some total ↔
      ∃ first w rest, v.execute (command n).toMessage sender n = (.ok (.int first), w)
        ∧ inParts? command w parts = some rest ∧ first + rest = total := by
  rw [inParts?]
  split
  · next first w hdone =>
    simp only [hdone, Option.map_eq_map, Option.map_eq_some_iff, Prod.mk.injEq, Except.ok.injEq,
      Value.int.injEq, exists_and_left]
    constructor
    · intro h
      obtain ⟨rest, hrest, htotal⟩ := h
      exact ⟨first, w, ⟨rfl, rfl⟩, rest, hrest, htotal⟩
    · intro h
      obtain ⟨_, _, ⟨rfl, rfl⟩, rest, hrest, htotal⟩ := h
      exact ⟨rest, hrest, htotal⟩
  · next hrefused =>
    constructor
    · intro h
      cases h
    · intro h
      obtain ⟨first, w, _, hdone, _⟩ := h
      exact absurd hdone (hrefused first w)

/-- A deposit that is accepted has minted what the preview says, and that is not
    nothing. -/
theorem deposit_done {sender : Text} {recipient : Option Text} {n shares : Int} (hn : 0 ≤ n)
    (h : v.execute (Command.deposit n recipient).toMessage sender n = (.ok (.int shares), w)) :
    shares = v.ledger.previewDeposit v.terms n ∧ shares ≠ 0
      ∧ w.ledger = v.ledger.afterDeposit v.terms n shares (receiver sender recipient) := by
  have hreceipt : v.receipt (.command (.deposit n recipient) sender n)
      = .minted (receiver sender recipient) n shares := by
    simp only [receipt, h]
    rfl
  have hallowed : v.Allows (.command (.deposit n recipient) sender n) := hn
  have hdue := isDue_receipt hallowed
  have hledger := ledger_act v (.command (.deposit n recipient) sender n)
  rw [hreceipt] at hdue hledger
  obtain ⟨-, -, hminted, hpreview⟩ := hdue
  have hw : v.act (.command (.deposit n recipient) sender n) = w := congrArg Prod.snd h
  rw [hw] at hledger
  exact ⟨hpreview, hminted, hledger⟩

/-- A redeem of what is held is accepted and pays what the preview says. -/
theorem redeem_done (v : Vault H) {sender : Text} (recipient : Option Text) {n : Int}
    (hn : 0 < n) (hmax : n ≤ v.ledger.maxRedeem sender) :
    ∃ w, v.execute (Command.redeem n recipient).toMessage sender n
        = (.ok (.int (v.ledger.previewRedeem n)), w)
      ∧ w.ledger = v.ledger.afterRedeem n (v.ledger.previewRedeem n) sender
          (receiver sender recipient) := by
  have hquote := redeem_quote v hn hmax recipient
  have hreceipt : v.receipt (.command (.redeem n recipient) sender n)
      = .burned sender n (receiver sender recipient) (v.ledger.previewRedeem n) := by
    simp only [receipt, hquote]
    rfl
  have hledger := ledger_act v (.command (.redeem n recipient) sender n)
  rw [hreceipt] at hledger
  refine ⟨v.act (.command (.redeem n recipient) sender n), ?_, hledger⟩
  rw [← hquote]
  rfl

/-- The vault after a command with an unsigned amount is reachable, and has the same
    terms. -/
theorem Reachable.execute (hv : v.Reachable) {c : Command} (hc : c.IsUnsigned) {sender : Text}
    {funds : Int} {outcome : Except VaultFault Value}
    (h : v.execute c.toMessage sender funds = (outcome, w)) :
    w.Reachable ∧ w.terms = v.terms := by
  have hw : v.act (.command c sender funds) = w := congrArg Prod.snd h
  have hallowed : v.Allows (.command c sender funds) := hc
  rw [← hw]
  exact ⟨hv.act hallowed, terms_act v _⟩

/-! ## Deposits -/

/-- The parts of a deposit mint no more than the preview for their sum. -/
theorem minted_le_preview {recipient : Option Text} {parts : List (Text × Int)} {minted : Int}
    (h : inParts? (.deposit · recipient) v parts = some minted) (hv : v.Reachable)
    (hsolvent : v.ledger.IsSolvent) (hparts : ∀ p ∈ parts, 0 < p.2) :
    minted ≤ v.ledger.previewDeposit v.terms (parts.map Prod.snd).sum := by
  induction parts generalizing v minted with
  | nil =>
    obtain rfl := Option.some.inj h
    exact hv.sound.previewDeposit_nonneg hv.isFair (Int.le_refl 0)
  | cons p parts ih =>
    obtain ⟨sender, n⟩ := p
    obtain ⟨shares, w, rest, hfirst, hrest, rfl⟩ := inParts?_cons_eq_some.mp h
    have hn : 0 < n := hparts (sender, n) (List.mem_cons_self ..)
    have hlater : ∀ p ∈ parts, 0 < p.2 := fun p hp => hparts p (List.mem_cons_of_mem _ hp)
    have hunsigned : (Command.deposit n recipient).IsUnsigned := Int.le_of_lt hn
    obtain ⟨hreach, hterms⟩ := hv.execute hunsigned hfirst
    obtain ⟨rfl, hminted, hledger⟩ := deposit_done (Int.le_of_lt hn) hfirst
    -- The vault is solvent after the first part too, so the other parts obey the bound there.
    have hsolvent' : w.ledger.IsSolvent := by
      rw [hledger]
      exact hsolvent.afterDeposit hv.sound hv.isFair hn hminted _
    have hbound := ih hrest hreach hsolvent' hlater
    have hothers : 0 ≤ (parts.map Prod.snd).sum := by
      apply List.sum_nonneg
      intro k hk
      obtain ⟨p, hp, rfl⟩ := List.mem_map.mp hk
      exact Int.le_of_lt (hlater p hp)
    have htwo := Ledger.previewDeposit_add_le hsolvent hv.sound hv.isFair (Int.le_of_lt hn)
      hothers (receiver sender recipient)
    rw [hterms, hledger] at hbound
    rw [List.map_cons, List.sum_cons]
    show _ ≤ v.ledger.previewDeposit v.terms (n + (parts.map Prod.snd).sum)
    omega

/-! ## Redeems -/

/-- The parts of a redeem of what is held are accepted and pay no more than the
    preview for their sum. -/
theorem paid_le_preview (hv : v.Reachable) {sender : Text} (recipient : Option Text)
    {parts : List Int} (hparts : ∀ n ∈ parts, 0 < n)
    (hmax : parts.sum ≤ v.ledger.maxRedeem sender) :
    ∃ paid, inParts? (.redeem · recipient) v (parts.map (Prod.mk sender)) = some paid
      ∧ paid ≤ v.ledger.previewRedeem parts.sum := by
  induction parts generalizing v with
  | nil =>
    refine ⟨0, rfl, ?_⟩
    rw [List.sum_nil, Ledger.previewRedeem_zero]
  | cons n parts ih =>
    have hn : 0 < n := hparts n (List.mem_cons_self ..)
    have hlater : ∀ k ∈ parts, 0 < k := fun k hk => hparts k (List.mem_cons_of_mem n hk)
    have hothers : 0 ≤ parts.sum := List.sum_nonneg fun k hk => Int.le_of_lt (hlater k hk)
    have hunsigned : (Command.redeem n recipient).IsUnsigned := Int.le_of_lt hn
    rw [List.sum_cons] at hmax ⊢
    obtain ⟨w, hfirst, hledger⟩ :=
      redeem_done v recipient hn (by omega : n ≤ v.ledger.maxRedeem sender)
    obtain ⟨hreach, -⟩ := hv.execute hunsigned hfirst
    -- The sender has so many shares less, and that is still enough for the other parts.
    have hkept : w.ledger.maxRedeem sender = v.ledger.maxRedeem sender - n := by
      rw [hledger]
      exact Accounts.get_add_self ..
    obtain ⟨paid, hpaid, hbound⟩ := ih hreach hlater (by omega)
    have hsupply := hv.sound.maxRedeem_le_supply sender
    have htwo := Ledger.previewRedeem_add_le (Int.le_of_lt hn) hothers
      (by omega : n + parts.sum ≤ v.ledger.totalSupply) sender (receiver sender recipient)
    rw [hledger] at hbound
    refine ⟨_, inParts?_cons_eq_some.mpr ⟨_, w, paid, hfirst, hpaid, rfl⟩, ?_⟩
    omega

/-! ## Against the answers -/

/-- A deposit in parts that are all accepted, whoever sends them, mints no more than
    the preview for the whole, unless the vault has shares that are worth nothing. A
    redeem in parts of what the sender holds is accepted, and pays no more than the
    preview for the whole. -/
theorem splitting_gains_nothing (hv : v.Reachable) (recipient : Option Text) :
    (¬ (0 < v.ledger.totalSupply ∧ v.ledger.totalAssets = 0) →
      ∀ parts : List (Text × Int), (∀ p ∈ parts, 0 < p.2) →
        ∃ preview, v.answer (.previewDeposit (parts.map Prod.snd).sum) = .ok (.int preview)
          ∧ ∀ minted, inParts? (.deposit · recipient) v parts = some minted →
            minted ≤ preview)
    ∧ ∀ (sender : Text) (parts : List Int), (∀ n ∈ parts, 0 < n) →
      parts.sum ≤ v.ledger.maxRedeem sender →
        ∃ preview, v.answer (.previewRedeem parts.sum) = .ok (.int preview)
          ∧ ∃ paid, inParts? (.redeem · recipient) v (parts.map (Prod.mk sender)) = some paid
            ∧ paid ≤ preview := by
  refine ⟨?_, ?_⟩
  · intro hworth parts hparts
    refine ⟨_, answer_eq_ask .., ?_⟩
    intro minted hminted
    have hsolvent : v.ledger.IsSolvent := by
      have hassets := hv.sound.assets_nonneg
      have hsupply := hv.sound.supply_nonneg
      unfold Ledger.IsSolvent
      omega
    exact minted_le_preview hminted hv hsolvent hparts
  · intro sender parts hparts hmax
    exact ⟨_, answer_eq_ask .., paid_le_preview hv recipient hparts hmax⟩

/-- A deposit, and a yield that leaves something to round. -/
def roughRun : List Act := [.command (.deposit 1000 none) "alice" 1000, .outside 101]

/-- Ten parts of a deposit, by two senders. -/
def tens : List (Text × Int) :=
  List.replicate 6 (("bob" : Text), (10 : Int)) ++ List.replicate 4 (("carol" : Text), (10 : Int))

/-- Three parts of a redeem. -/
def unequalParts : List Int := [97, 88, 1]

/-- The ten parts mint 80 shares, of 89 for the whole. The three parts are paid 203, of
    204 for the whole. -/
theorem splitting_gains_nothing_roughRun : ∃ v : Vault KeeperList, v.Reachable
    ∧ ¬ (0 < v.ledger.totalSupply ∧ v.ledger.totalAssets = 0)
    ∧ (∀ p ∈ tens, 0 < p.2) ∧ (∀ n ∈ unequalParts, 0 < n)
    ∧ unequalParts.sum ≤ v.ledger.maxRedeem "alice"
    ∧ (inParts? (.deposit · (some "dave")) v tens = some 80
      ∧ ∃ preview, v.answer (.previewDeposit 100) = .ok (.int preview) ∧ 80 ≤ preview)
    ∧ inParts? (.redeem · (some "dave")) v (unequalParts.map (Prod.mk "alice")) = some 203
    ∧ ∃ preview, v.answer (.previewRedeem 186) = .ok (.int preview) ∧ 203 ≤ preview := by
  obtain ⟨start, hnew, hpast, hworth, hmax, hminted, hpaid⟩ := exists_isNew_of_createSample
    (p := fun v => v.Lawful roughRun
      ∧ ¬ (0 < (v.after roughRun).ledger.totalSupply ∧ (v.after roughRun).ledger.totalAssets = 0)
      ∧ unequalParts.sum ≤ (v.after roughRun).ledger.maxRedeem "alice"
      ∧ inParts? (.deposit · (some "dave")) (v.after roughRun) tens = some 80
      ∧ inParts? (.redeem · (some "dave")) (v.after roughRun)
        (unequalParts.map (Prod.mk "alice")) = some 203)
    (by decide +kernel)
  have hreach : (start.after roughRun).Reachable := (Reachable.of_isNew hnew).after hpast
  have htens : ∀ p ∈ tens, 0 < p.2 := by decide
  have hunequal : ∀ n ∈ unequalParts, 0 < n := by decide
  obtain ⟨hdeposits, hredeems⟩ := splitting_gains_nothing hreach (some "dave")
  obtain ⟨preview, hpreview, hbound⟩ := hdeposits hworth tens htens
  obtain ⟨quote, hquote, paid, hall, hless⟩ := hredeems "alice" unequalParts hunequal hmax
  -- The total is determined by the parts.
  obtain rfl := Option.some.inj (hpaid.symm.trans hall)
  exact ⟨_, hreach, hworth, htens, hunequal, hmax,
    ⟨hminted, preview, hpreview, hbound 80 hminted⟩, hpaid, quote, hquote, hless⟩

end Vault

end ShareVault
