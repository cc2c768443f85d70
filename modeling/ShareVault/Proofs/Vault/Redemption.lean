import ShareVault.Proofs.Ledger.Price
import ShareVault.Proofs.Vault.Run

/-! # Quotes for redeems

    What a vault quotes for a redeem it pays then, and pays at least that ever
    after, whatever others do, as long as the holder keeps the shares and no loss
    comes from outside. The quote of an earlier moment is a floor.

    Main statements:
    - `redeem_quote`: a redeem of what is held is accepted and pays the quote;
    - `previewRedeem_le_of_mem_states`: quotes do not fall in the course of a run;
    - `redeem_floor`: both together, over any run without losses.
-/

namespace ShareVault

/-- The act is a command, or adds to the assets. -/
def Act.IsGrowth : Act → Prop
  | .command c _ _ => c.IsUnsigned
  | .outside change => 0 ≤ change

instance Act.decidableIsGrowth : (a : Act) → Decidable a.IsGrowth
  | .command c _ _ => inferInstanceAs (Decidable c.IsUnsigned)
  | .outside change => inferInstanceAs (Decidable (0 ≤ change))

namespace Vault

variable {H : Type} [Handler H] {v : Vault H}

/-! ## Quotes -/

/-- A redeem of what is held is accepted and pays the quote. -/
theorem redeem_quote (v : Vault H) {holder : Text} {n : Int} (hn : 0 < n)
    (hmax : n ≤ v.ledger.maxRedeem holder) (recipient : Option Text) :
    (v.execute (Command.redeem n recipient).toMessage holder n).1
      = .ok (.int (v.ledger.previewRedeem n)) := by
  have haccepted : v.ledger.redeem n n holder (receiver holder recipient)
      = .ok (v.ledger.previewRedeem n, v.ledger.afterRedeem n (v.ledger.previewRedeem n) holder
          (receiver holder recipient)) :=
    Ledger.redeem_eq_ok_iff.mpr ⟨by omega, rfl, hmax, rfl⟩
  rw [execute_toMessage]
  simp only [perform, haccepted, settle]

theorem query_previewRedeem (v : Vault H) (n : Int) :
    (v.query (Question.previewRedeem n).toMessage).1
      = .ok (.int (v.ledger.previewRedeem n)) := by
  unfold query
  rw [Question.ofMessage?_toMessage]
  rfl

/-! ## Runs without losses -/

theorem isLossless_receipt {a : Act} (ha : a.IsGrowth) : (v.receipt a).IsLossless := by
  cases a with
  | outside change => exact ha
  | command c sender funds =>
    simp only [receipt, Command.receipt]
    split
    · trivial
    · trivial
    · trivial

/-- Acts that take nothing from outside can always happen. -/
theorem Reachable.allows (hv : v.Reachable) {a : Act} (ha : a.IsGrowth) : v.Allows a := by
  cases a with
  | command c sender funds => exact ha
  | outside change =>
    have hassets := hv.sound.assets_nonneg
    have hchange : 0 ≤ change := ha
    unfold Allows
    omega

theorem Reachable.act (hv : v.Reachable) {a : Act} (ha : v.Allows a) : (v.act a).Reachable := by
  have hone : v.Lawful [a] := ⟨ha, trivial⟩
  exact hv.after hone

theorem Reachable.of_mem_states (hv : v.Reachable) {acts : List Act}
    (hgrow : ∀ a ∈ acts, a.IsGrowth) {w : Vault H} (hw : w ∈ v.states acts) : w.Reachable := by
  induction acts generalizing v with
  | nil =>
    obtain rfl := List.mem_singleton.mp hw
    exact hv
  | cons a acts ih =>
    rcases List.mem_cons.mp hw with rfl | hlater
    · exact hv
    · have hallowed := hv.allows (hgrow a (List.mem_cons_self ..))
      exact ih (hv.act hallowed) (fun b hb => hgrow b (List.mem_cons_of_mem a hb)) hlater

theorem self_mem_states (v : Vault H) (acts : List Act) : v ∈ v.states acts := by
  cases acts with
  | nil => exact List.mem_singleton.mpr rfl
  | cons a acts => exact List.mem_cons_self ..

/-- What somebody holds all the while is quoted no less in any later state. -/
theorem previewRedeem_le_of_mem_states (hv : v.Reachable) {acts : List Act}
    (hgrow : ∀ a ∈ acts, a.IsGrowth) {holder : Text} {n : Int} (hn : 0 ≤ n)
    (hmax : ∀ w ∈ v.states acts, n ≤ w.ledger.maxRedeem holder) {w : Vault H}
    (hw : w ∈ v.states acts) : v.ledger.previewRedeem n ≤ w.ledger.previewRedeem n := by
  induction acts generalizing v with
  | nil =>
    obtain rfl := List.mem_singleton.mp hw
    exact Int.le_refl _
  | cons a acts ih =>
    rcases List.mem_cons.mp hw with rfl | hlater
    · exact Int.le_refl _
    -- The holder has the shares before and after the first act, so its price holds.
    · have ha := hgrow a (List.mem_cons_self ..)
      have hallowed := hv.allows ha
      have hhere := hmax v (List.mem_cons_self ..)
      have hnext := hmax (v.act a) (List.mem_cons_of_mem v (self_mem_states ..))
      have hstep : v.ledger.previewRedeem n ≤ (v.act a).ledger.previewRedeem n := by
        rw [ledger_act] at hnext ⊢
        exact Ledger.previewRedeem_le_post hv.sound hv.isFair (isDue_receipt hallowed)
          (isLossless_receipt ha) hn hhere hnext
      have hrest := ih (hv.act hallowed) (fun b hb => hgrow b (List.mem_cons_of_mem a hb))
        (fun u hu => hmax u (List.mem_cons_of_mem v hu)) hlater
      exact Int.le_trans hstep hrest

theorem pairwise_previewRedeem (hv : v.Reachable) {acts : List Act}
    (hgrow : ∀ a ∈ acts, a.IsGrowth) {holder : Text} {n : Int} (hn : 0 ≤ n)
    (hmax : ∀ w ∈ v.states acts, n ≤ w.ledger.maxRedeem holder) :
    (v.states acts).Pairwise fun w w' => w.ledger.previewRedeem n ≤ w'.ledger.previewRedeem n := by
  induction acts generalizing v with
  | nil => exact List.pairwise_singleton ..
  | cons a acts ih =>
    have hallowed := hv.allows (hgrow a (List.mem_cons_self ..))
    refine List.pairwise_cons.mpr ⟨?_, ?_⟩
    · intro w hw
      exact previewRedeem_le_of_mem_states hv hgrow hn hmax (List.mem_cons_of_mem v hw)
    · exact ih (hv.act hallowed) (fun b hb => hgrow b (List.mem_cons_of_mem a hb))
        fun w hw => hmax w (List.mem_cons_of_mem v hw)

/-- A command of somebody else takes nothing from a holder: neither shares nor
    the worth of them. -/
theorem keeps_of_ne_sender (hv : v.Reachable) {c : Command} (hc : c.IsUnsigned)
    {sender holder : Text} (hne : sender ≠ holder) (funds : Int) :
    let w := (v.execute c.toMessage sender funds).2
    v.ledger.maxRedeem holder ≤ w.ledger.maxRedeem holder
      ∧ ∀ k, 0 ≤ k → k ≤ v.ledger.maxRedeem holder →
        v.ledger.previewRedeem k ≤ w.ledger.previewRedeem k := by
  have hdue : v.ledger.IsDue v.terms (v.receipt (.command c sender funds)) := isDue_receipt hc
  have hledger : (v.execute c.toMessage sender funds).2.ledger
      = v.ledger.post v.terms (v.receipt (.command c sender funds)) :=
    ledger_act v (.command c sender funds)
  have hlossless : (v.receipt (.command c sender funds)).IsLossless := isLossless_receipt hc
  have hburned : (v.receipt (.command c sender funds)).burnedFrom holder = 0 := by
    simp only [receipt, Command.receipt]
    split
    · rfl
    · exact if_neg hne
    · rfl
  have hkeeps := Ledger.maxRedeem_le_post hv.sound hv.isFair hdue hburned
  simp only [hledger]
  refine ⟨hkeeps, ?_⟩
  intro k hk hmax
  exact Ledger.previewRedeem_le_post hv.sound hv.isFair hdue hlossless hk hmax
    (Int.le_trans hmax hkeeps)

/-- While a holder keeps `n` shares, the quote for them is what a redeem pays in
    every state, it never falls, and no command of somebody else lowers what the
    holder has or what it is worth. -/
theorem redeem_floor (hv : v.Reachable) {acts : List Act} (hgrow : ∀ a ∈ acts, a.IsGrowth)
    {holder : Text} {n : Int} (hn : 0 ≤ n)
    (hmax : ∀ w ∈ v.states acts, n ≤ w.ledger.maxRedeem holder) :
    (∀ w ∈ v.states acts,
        (w.query (Question.previewRedeem n).toMessage).1 = .ok (.int (w.ledger.previewRedeem n))
          ∧ (0 < n → ∀ recipient,
            (w.execute (Command.redeem n recipient).toMessage holder n).1
              = .ok (.int (w.ledger.previewRedeem n))))
      ∧ ((v.states acts).Pairwise fun w w' =>
        w.ledger.previewRedeem n ≤ w'.ledger.previewRedeem n)
      ∧ ∀ w ∈ v.states acts, ∀ c : Command, c.IsUnsigned → ∀ sender ≠ holder, ∀ funds,
        let w' := (w.execute c.toMessage sender funds).2
        w.ledger.maxRedeem holder ≤ w'.ledger.maxRedeem holder
          ∧ ∀ k, 0 ≤ k → k ≤ w.ledger.maxRedeem holder →
            w.ledger.previewRedeem k ≤ w'.ledger.previewRedeem k := by
  refine ⟨?_, pairwise_previewRedeem hv hgrow hn hmax, ?_⟩
  · intro w hw
    refine ⟨query_previewRedeem w n, ?_⟩
    intro hpos recipient
    exact redeem_quote w hpos (hmax w hw) recipient
  · intro w hw c hc sender hne funds
    exact keeps_of_ne_sender (hv.of_mem_states hgrow hw) hc hne funds

/-- A deposit, and a loss right after it. -/
def lossRun : List Act := [.command (.deposit 1000 none) "alice" 1000, .outside (-96)]

/-- What others do while the depositor keeps 900 shares. -/
def growthRun : List Act :=
  [.command (.deposit 10 none) "bob" 10, .outside 3, .command (.redeem 5 none) "bob" 5,
    .command (.deposit 77 (some "bob")) "carol" 77]

theorem redeem_floor_growthRun : ∃ v : Vault KeeperList, v.Reachable
    ∧ (∀ a ∈ growthRun, a.IsGrowth)
    ∧ (∀ w ∈ v.states growthRun, 900 ≤ w.ledger.maxRedeem "alice")
    ∧ (v.states growthRun).map (fun w => w.ledger.previewRedeem 900) = [813, 814, 816, 817, 817]
    ∧ (∀ w ∈ v.states growthRun,
      (w.execute (Command.redeem 900 none).toMessage "alice" 900).1
        = .ok (.int (w.ledger.previewRedeem 900)))
    ∧ (v.states growthRun).Pairwise fun w w' =>
      w.ledger.previewRedeem 900 ≤ w'.ledger.previewRedeem 900 := by
  obtain ⟨start, hnew, hpast, hmax, hquotes⟩ := exists_isNew_of_createSample
    (p := fun v => v.Lawful lossRun
      ∧ (∀ w ∈ (v.after lossRun).states growthRun, 900 ≤ w.ledger.maxRedeem "alice")
      ∧ ((v.after lossRun).states growthRun).map (fun w => w.ledger.previewRedeem 900)
        = [813, 814, 816, 817, 817])
    (by decide +kernel)
  have hreach : (start.after lossRun).Reachable := (Reachable.of_isNew hnew).after hpast
  have hgrow : ∀ a ∈ growthRun, a.IsGrowth := by decide
  obtain ⟨hpays, hrises, -⟩ := redeem_floor hreach hgrow (by decide : (0 : Int) ≤ 900) hmax
  exact ⟨_, hreach, hgrow, hmax, hquotes, fun w hw => (hpays w hw).2 (by decide) none, hrises⟩

end Vault

end ShareVault
