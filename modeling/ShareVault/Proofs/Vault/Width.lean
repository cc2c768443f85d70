import ShareVault.Proofs.Ledger.Caps
import ShareVault.Proofs.Ledger.Par
import ShareVault.Proofs.Message.Grammar
import ShareVault.Proofs.Message.Response
import ShareVault.Proofs.Vault.Answered
import ShareVault.Proofs.Vault.Trading

/-! # Amounts that fit

    Amounts are declared with 128 bits. Each amount in a command fits, but nothing
    checks the totals: what many deposits add up to may not fit, and then a client
    cannot read the answer that a vault sends.

    While a vault lives by deposits and redeems alone, shares are at par. So what an
    amount is worth always fits, and the totals fit together or not at all. A cap on
    deposits that fits keeps them so.

    Main statements:
    - `reports_of_answer`: an answer is read by a client exactly if it fits;
    - `amounts_fit_iff`: which answers fit after any run of trades.
-/

namespace ShareVault

/-- The questions what an amount is worth. -/
def Question.worths (amount : Int) : List Question :=
  [.previewDeposit amount, .previewRedeem amount, .convertToShares amount, .convertToAssets amount]

/-- The questions how much there is, and how much an owner has. -/
def Question.holdings (owner : Text) : List Question := [.totalAssets, .totalSupply, .maxRedeem owner]

theorem Question.mem_worths_iff {amount : Int} {q : Question} : q ∈ worths amount ↔
    q = .previewDeposit amount ∨ q = .previewRedeem amount ∨ q = .convertToShares amount
      ∨ q = .convertToAssets amount := by
  simp only [worths, List.mem_cons, List.not_mem_nil, or_false]

theorem Question.mem_holdings_iff {owner : Text} {q : Question} : q ∈ holdings owner ↔
    q = .totalAssets ∨ q = .totalSupply ∨ q = .maxRedeem owner := by
  simp only [holdings, List.mem_cons, List.not_mem_nil, or_false]

/-- A question that a query of the family states, with an amount for an answer. -/
structure Question.AsksAmount (q : Question) : Prop where
  written : ∃ w ∈ Family.query.variants, ∃ values payload,
    q.toMessage = .variant w values ∧ w.Written values payload
  amount : q.toMessage.AsksAmount

/-- The payload of a query with an amount. -/
theorem Variant.written_amount {w : Variant}
    (hw : w.layout = .struct [.required "amount" Family.amountShape]) {n : Int} (hn : 0 ≤ n)
    (hfits : n < twoTo 128) : w.Written [.int n] (.object [("amount", .int n)]) := by
  obtain ⟨k, rfl⟩ := Int.eq_ofNat_of_zero_le hn
  have hk : k < twoTo 128 := Int.ofNat_lt.mp hfits
  refine .struct hw ?_ (.cons (.inl ⟨_, rfl, .wide .integer hk⟩) .nil)
  intro key hkey
  exact hkey

theorem Question.asksAmount_of_mem_worths {n : Int} (hn : 0 ≤ n) (hfits : n < twoTo 128)
    {q : Question} (h : q ∈ worths n) : q.AsksAmount := by
  have hasks : ∀ w ∈ Family.query.variants,
      w.layout = .struct [.required "amount" Family.amountShape] →
        q.toMessage = .variant w [.int n] → w.returns = some Family.amountShape → q.AsksAmount := by
    intro w hw hlayout hq hreturns
    refine ⟨⟨w, hw, _, _, hq, Variant.written_amount hlayout hn hfits⟩, ?_⟩
    rw [hq]
    exact ⟨_, hreturns, .inl rfl⟩
  rcases mem_worths_iff.mp h with rfl | rfl | rfl | rfl
  · exact hasks Family.previewDeposit (by simp [Family.variants]) rfl rfl rfl
  · exact hasks Family.previewRedeem (by simp [Family.variants]) rfl rfl rfl
  · exact hasks Family.convertToShares (by simp [Family.variants]) rfl rfl rfl
  · exact hasks Family.convertToAssets (by simp [Family.variants]) rfl rfl rfl

theorem Question.asksAmount_of_mem_holdings {owner : Text} {q : Question}
    (h : q ∈ holdings owner) : q.AsksAmount := by
  rcases mem_holdings_iff.mp h with rfl | rfl | rfl
  · refine ⟨⟨Family.totalAssets, by simp [Family.variants], [], .object [], rfl, ?_⟩,
      ⟨_, rfl, .inl rfl⟩⟩
    exact .struct rfl (fun _ h => h) .nil
  · refine ⟨⟨Family.totalSupply, by simp [Family.variants], [], .object [], rfl, ?_⟩,
      ⟨_, rfl, .inl rfl⟩⟩
    exact .struct rfl (fun _ h => h) .nil
  · refine ⟨⟨Family.maxRedeem, by simp [Family.variants], [.text owner],
      .object [("owner", .text owner)], rfl, ?_⟩, ⟨_, rfl, .inr rfl⟩⟩
    exact .struct rfl (fun _ h => h) (.cons (.inl ⟨_, rfl, .text owner⟩) .nil)

namespace Vault

variable {H : Type} [Handler H]

/-! ## What is sent -/

/-- The answer to a question is an amount. -/
def Fits (v : Vault H) (q : Question) : Prop :=
  ∃ x, v.answer q = .ok (.int x) ∧ 0 ≤ x ∧ x < twoTo 128

/-- A vault can be asked a question in JSON. It answers by an unsigned number, and
    what it sends in response is read as the answer if that fits, and otherwise as
    nothing. -/
structure Reports (v : Vault H) (q : Question) : Prop where
  /-- The normal form of the question is one way to ask it. -/
  asked : v.questions.decode q.toMessage.toWire = .ok q.toMessage
  answered : ∃ x, v.answer q = .ok (.int x) ∧ 0 ≤ x
  sent : ∀ data, v.questions.decode data = .ok q.toMessage →
    ∃ sent, (v.queryWire data).1 = .ok sent
      ∧ ∀ value, q.toMessage.IsReadAs sent value ↔ v.answer q = .ok value ∧ v.Fits q

theorem fits_iff {v : Vault H} {q : Question} {x : Int} (h : v.answer q = .ok (.int x)) :
    v.Fits q ↔ 0 ≤ x ∧ x < twoTo 128 := by
  unfold Fits
  simp only [h, Except.ok.injEq, Value.int.injEq, exists_eq_left']

/-- The text of an answer that is a number. -/
theorem queryWire_of_answer {v : Vault H} {q : Question} (hq : q.AsksAmount) {x : Int}
    (h : v.answer q = .ok (.int x)) {data : Json}
    (hdata : v.questions.decode data = .ok q.toMessage) :
    (v.queryWire data).1 = .ok (Message.amountText x) := by
  unfold answer at h
  unfold queryWire
  rw [hdata]
  cases hquery : v.query q.toMessage with
  | mk outcome w =>
    rw [hquery] at h
    subst h
    simp only [hquery, Message.encodeResponse_amount hq.amount]
    rfl

theorem reports_of_answer {v : Vault H} {payload : Decoder Message}
    (hquestions : v.questions = Family.query.union payload) {q : Question} (hq : q.AsksAmount)
    {x : Int} (h : v.answer q = .ok (.int x)) (hx : 0 ≤ x) : v.Reports q := by
  refine ⟨?_, ⟨x, h, hx⟩, ?_⟩
  · obtain ⟨w, hw, values, p, heq, hwritten⟩ := hq.written
    rw [hquestions, heq]
    exact Family.decode_union_toWire hw hwritten
  · intro data hdata
    refine ⟨_, queryWire_of_answer hq h hdata, ?_⟩
    intro value
    rw [Message.isReadAs_amountText hq.amount, fits_iff h, h, Except.ok.injEq]
    apply and_congr_left
    intro _
    exact eq_comm

/-! ## After trades -/

variable {v : Vault H} {G : Text → Prop}

/-- What an amount is worth at par is no more than the amount. -/
theorem answer_of_mem_worths (ht : v.terms.IsFair) (hpar : v.ledger.AtPar) {n : Int} (hn : 0 ≤ n)
    {q : Question} (hq : q ∈ Question.worths n) :
    ∃ x, v.answer q = .ok (.int x) ∧ 0 ≤ x ∧ x ≤ n := by
  rcases Question.mem_worths_iff.mp hq with rfl | rfl | rfl | rfl
  · refine ⟨_, answer_eq_ask .., ?_⟩
    have hminted : v.ledger.previewDeposit v.terms n = v.terms.net n := hpar.sharesFor_eq _
    rw [hminted]
    exact ⟨Terms.net_nonneg ht hn, Terms.net_le ht hn⟩
  · refine ⟨_, answer_eq_ask .., ?_⟩
    have hpaid : v.ledger.previewRedeem n = n := hpar.assetsFor_eq n
    rw [hpaid]
    exact ⟨hn, Int.le_refl n⟩
  · refine ⟨_, answer_eq_ask .., ?_⟩
    rw [hpar.sharesFor_eq]
    exact ⟨hn, Int.le_refl n⟩
  · refine ⟨_, answer_eq_ask .., ?_⟩
    rw [hpar.assetsFor_eq]
    exact ⟨hn, Int.le_refl n⟩

/-- What there is at par is no more than the supply. -/
theorem answer_of_mem_holdings (hl : v.ledger.Sound) (hpar : v.ledger.AtPar) {owner : Text}
    {q : Question} (hq : q ∈ Question.holdings owner) :
    ∃ x, v.answer q = .ok (.int x) ∧ 0 ≤ x ∧ x ≤ v.ledger.totalSupply := by
  rcases Question.mem_holdings_iff.mp hq with rfl | rfl | rfl
  · exact ⟨_, answer_eq_ask .., hl.assets_nonneg, Int.le_of_eq hpar⟩
  · exact ⟨_, answer_eq_ask .., hl.supply_nonneg, Int.le_refl _⟩
  · exact ⟨_, answer_eq_ask .., hl.balances_nonneg owner, hl.maxRedeem_le_supply owner⟩

/-- Trades leave the shares of a new vault at par. -/
theorem atPar_after {start : Vault H} (hnew : start.IsNew) {acts : List Act}
    (hacts : ∀ a ∈ acts, a.TradesWithin G) : (start.after acts).ledger.AtPar := by
  have hdue := areDue_receipts (lawful_of_tradesWithin start hacts)
  have hwithin := isWithin_of_mem_receipts (v := start) hacts
  rw [hnew.spec.2] at hdue
  rw [ledger_after, hnew.spec.2]
  have hpar : Ledger.empty.AtPar := rfl
  exact hpar.postAll hdue hwithin

/-- A cap that is not negative holds for the assets of a new vault, whatever is
    traded. -/
theorem totalAssets_after_le {start : Vault H} (hnew : start.IsNew) {acts : List Act}
    (hacts : ∀ a ∈ acts, a.TradesWithin G) {cap : Int} (hcap : start.terms.depositCap = some cap) :
    (start.after acts).ledger.totalAssets ≤ max cap 0 := by
  have hdue := areDue_receipts (lawful_of_tradesWithin start hacts)
  have hwithin := isWithin_of_mem_receipts (v := start) hacts
  rw [hnew.spec.2] at hdue
  rw [ledger_after, hnew.spec.2]
  exact Ledger.totalAssets_postAll_le .empty hnew.spec.1 hcap (Int.le_max_left ..)
    (Int.le_max_right ..) hdue hwithin

/-- After trades alone a vault answers all questions about amounts by numbers, and
    what it sends is read if the number fits and not otherwise. What an amount is
    worth fits. The totals and what each owner has fit exactly if the supply does,
    and under a cap that fits it does. -/
theorem amounts_fit_iff {start : Vault H} (hnew : start.IsNew) {acts : List Act}
    (hacts : ∀ a ∈ acts, a.TradesWithin fun _ => True) :
    let v := start.after acts
    (∀ n : Int, 0 ≤ n → n < twoTo 128 → ∀ q ∈ Question.worths n, v.Reports q ∧ v.Fits q)
      ∧ (∀ owner, ∀ q ∈ Question.holdings owner, v.Reports q)
      ∧ ((∀ owner, ∀ q ∈ Question.holdings owner, v.Fits q) ↔ v.ledger.totalSupply < twoTo 128)
      ∧ ∀ cap, v.terms.depositCap = some cap → cap < twoTo 128 →
        v.ledger.totalSupply < twoTo 128 := by
  intro v
  have hreach : v.Reachable := (Reachable.of_isNew hnew).after (lawful_of_tradesWithin start hacts)
  have hpar : v.ledger.AtPar := atPar_after hnew hacts
  obtain ⟨-, -, payload, hstart⟩ := hnew.made
  have hquestions : v.questions = Family.query.union payload :=
    (questions_after start acts).trans hstart
  have hholdings : ∀ owner, ∀ q ∈ Question.holdings owner,
      ∃ x, v.answer q = .ok (.int x) ∧ 0 ≤ x ∧ x ≤ v.ledger.totalSupply :=
    fun owner q hq => answer_of_mem_holdings hreach.sound hpar hq
  refine ⟨?_, ?_, ⟨?_, ?_⟩, ?_⟩
  · intro n hn hfits q hq
    obtain ⟨x, hx, hnonneg, hle⟩ := answer_of_mem_worths hreach.isFair hpar hn hq
    have hasks := Question.asksAmount_of_mem_worths hn hfits hq
    exact ⟨reports_of_answer hquestions hasks hx hnonneg, (fits_iff hx).mpr ⟨hnonneg, by omega⟩⟩
  · intro owner q hq
    obtain ⟨x, hx, hnonneg, -⟩ := hholdings owner q hq
    exact reports_of_answer hquestions (Question.asksAmount_of_mem_holdings hq) hx hnonneg
  · intro hfits
    have hsupply := hfits [] .totalSupply (Question.mem_holdings_iff.mpr (.inr (.inl rfl)))
    exact ((fits_iff (answer_eq_ask ..)).mp hsupply).2
  · intro hsupply owner q hq
    obtain ⟨x, hx, hnonneg, hle⟩ := hholdings owner q hq
    exact (fits_iff hx).mpr ⟨hnonneg, by omega⟩
  · intro cap hcap hfits
    have hassets : v.ledger.totalAssets ≤ max cap 0 :=
      totalAssets_after_le hnew hacts (by rw [← terms_after start acts]; exact hcap)
    have hpositive : (0 : Int) < twoTo 128 := Int.ofNat_lt.mpr (twoTo_pos 128)
    unfold Ledger.AtPar at hpar
    omega

/-- A deposit and a redeem of a part of it. -/
def smallRun : List Act :=
  [.command (.deposit 1000 none) "alice" 1000,
    .command (.redeem 333 (some "dave")) "alice" 333]

theorem amounts_fit_iff_smallRun : ∃ start : Vault KeeperList, start.IsNew
    ∧ (∀ a ∈ smallRun, a.TradesWithin fun _ => True)
    ∧ (start.after smallRun).answer .totalAssets = .ok (.int 664)
    ∧ (∀ owner, ∀ q ∈ Question.holdings owner, (start.after smallRun).Fits q)
    ∧ ∃ sent, ((start.after smallRun).queryWire Question.totalAssets.toMessage.toWire).1 = .ok sent
      ∧ Question.totalAssets.toMessage.IsReadAs sent (.int 664) := by
  obtain ⟨start, hnew, hassets, hsupply⟩ := exists_isNew_of_createSample
    (p := fun v => (v.after smallRun).ledger.totalAssets = 664
      ∧ (v.after smallRun).ledger.totalSupply < twoTo 128)
    (by decide +kernel)
  have htrades : ∀ a ∈ smallRun, a.TradesWithin fun _ => True := by decide
  have hanswer : (start.after smallRun).answer .totalAssets = .ok (.int 664) := by
    rw [← hassets]
    exact answer_eq_ask ..
  obtain ⟨-, hreports, hfits, -⟩ := amounts_fit_iff hnew htrades
  have hall := hfits.mpr hsupply
  have htotal : .totalAssets ∈ Question.holdings [] := List.mem_cons_self ..
  have hreport := hreports [] .totalAssets htotal
  obtain ⟨sent, hsent, hread⟩ := hreport.sent _ hreport.asked
  exact ⟨start, hnew, htrades, hanswer, hall, sent, hsent,
    (hread _).mpr ⟨hanswer, hall [] .totalAssets htotal⟩⟩

/-- The greatest amount that fits. -/
def greatest : Int := twoTo 128 - 1

/-- Two deposits of as much as fits. -/
def greatRun : List Act :=
  [.command (.deposit greatest none) "alice" greatest,
    .command (.deposit greatest none) "bob" greatest]

/-- Both deposits are accepted, and the total of the two is sent but not read. -/
theorem amounts_unfit_greatRun : ∃ start : Vault KeeperList, start.IsNew
    ∧ (∀ a ∈ greatRun, a.TradesWithin fun _ => True)
    ∧ start.receipts greatRun = [.minted "alice" greatest greatest, .minted "bob" greatest greatest]
    ∧ (start.after greatRun).answer .totalAssets = .ok (.int (2 * greatest))
    ∧ ¬ (start.after greatRun).Fits .totalAssets
    ∧ ∃ sent, ((start.after greatRun).queryWire Question.totalAssets.toMessage.toWire).1 = .ok sent
      ∧ ∀ value, ¬ Question.totalAssets.toMessage.IsReadAs sent value := by
  -- A vault without fee or cap.
  obtain ⟨start, hnew, hreceipts, hassets⟩ := exists_isNew_of_create Registry.standard
    (.native "uosmo") (.synthetic "osmo1vault") ⟨0, none, none, true⟩ (.int 1)
    [("keeper", KeeperList.empty)]
    (p := fun v => v.receipts greatRun
        = [.minted "alice" greatest greatest, .minted "bob" greatest greatest]
      ∧ (v.after greatRun).ledger.totalAssets = 2 * greatest)
    (by decide +kernel)
  have hanswer : (start.after greatRun).answer .totalAssets = .ok (.int (2 * greatest)) := by
    rw [← hassets]
    exact answer_eq_ask ..
  have hunfit : ¬ (start.after greatRun).Fits .totalAssets := by
    rw [fits_iff hanswer]
    decide +kernel
  obtain ⟨-, -, payload, hquestions⟩ := hnew.made
  have htotal : .totalAssets ∈ Question.holdings [] := List.mem_cons_self ..
  have hreport := reports_of_answer ((questions_after start greatRun).trans hquestions)
    (Question.asksAmount_of_mem_holdings htotal) hanswer (by decide +kernel)
  obtain ⟨sent, hsent, hread⟩ := hreport.sent _ hreport.asked
  refine ⟨start, hnew, by decide +kernel, hreceipts, hanswer, hunfit, sent, hsent, ?_⟩
  intro value hvalue
  exact hunfit ((hread value).mp hvalue).2

end Vault

end ShareVault
