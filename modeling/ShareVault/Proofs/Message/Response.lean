import ShareVault.Message.Response
import ShareVault.Proofs.Json.Bytes
import ShareVault.Proofs.Message.Shape

/-! # Amounts as responses

    A response is written by the type that the query declares and read by the same
    type, but only reading checks that the value is of the type. Any number is
    written in response to a query for an amount. It is read back as long as it is
    an amount, and nothing is read otherwise.

    Main statements:
    - `encodeResponse_amount`: a number is written as its numeral;
    - `isReadAs_amountText`: when the numeral is read, and as what.
-/

namespace ShareVault

/-! ## Numerals -/

/-- A numeral, read as a wide integer, is that of its number. -/
theorem WideWritten.eq_of_ofInt {k : Nat} {n : Int}
    (h : WideWritten k (.text (Text.ofInt n))) : n = k := by
  cases h with
  | numeral _ hdigits _ hvalue =>
    cases n with
    | ofNat n =>
      have hnumeral : (Text.decimal n).digitsValue = k := hvalue
      rw [Text.digitsValue_decimal] at hnumeral
      rw [← hnumeral]
      rfl
    -- A sign is no digit.
    | negSucc n =>
      have hsign : (CodePoint.ofChar '-').isDigit = false := by decide
      simp [Text.ofInt, Text.isDigits, hsign] at hdigits

namespace Json

/-- Both styles show printable ASCII alike. -/
theorem plainPoint_eq_asciiPoint {c : CodePoint} (h : IsPrintable c) :
    JsonStyle.plainPoint c = JsonStyle.asciiPoint c := by
  obtain ⟨hlow, hhigh⟩ := h
  unfold JsonStyle.plainPoint JsonStyle.asciiPoint
  cases JsonStyle.shortEscape? c with
  | some t => rfl
  | none =>
    have hplain : ¬ c.val < 0x20 := by omega
    simp [hplain, hlow, hhigh]

theorem isWellFormed_of_isPrintable {t : Text} (h : ∀ c ∈ t, IsPrintable c) :
    t.isWellFormed = true := by
  unfold Text.isWellFormed
  rw [List.all_eq_true]
  intro c hc
  rw [isSurrogate_of_isPrintable (h c hc)]
  rfl

/-- A value that is a text of printable ASCII is written like a message. -/
theorem valueText?_text {t : Text} (h : ∀ c ∈ t, IsPrintable c) :
    (text t).valueText? = some (text t).messageText := by
  have hpoints : t.flatMap JsonStyle.plainPoint = t.flatMap JsonStyle.asciiPoint := by
    apply List.flatMap_congr
    intro c hc
    exact plainPoint_eq_asciiPoint (h c hc)
  have hwritten : (text t).write .value = (text t).messageText := by
    show JsonStyle.quote .value t = JsonStyle.quote .message t
    unfold JsonStyle.quote
    rw [show JsonStyle.point .value = JsonStyle.plainPoint from rfl, hpoints]
    rfl
  have hwell : (text t).isWellFormed = true := isWellFormed_of_isPrintable h
  unfold valueText?
  rw [if_pos hwell, hwritten]

/-- The bytes of a text of printable ASCII are read as the text. -/
theorem json_text {t : Text} (h : ∀ c ∈ t, IsPrintable c) :
    (Source.bytes (Encoding.encodeUtf8 (text t).messageText)).json .unlimited = .ok (text t) := by
  have hplain : (text t).IsPlain := trivial
  have hjoined : (text t).IsJoined :=
    Text.isJoined_of_isWellFormed (isWellFormed_of_isPrintable h)
  rw [json_messageText hplain, joined_eq_self hplain hjoined]

end Json

/-! ## Types of amounts -/

namespace Shape

/-- The type of an amount, or of an amount that may be missing. -/
def IsAmount (s : Shape) : Prop := s = Family.amountShape ∨ s = .optional Family.amountShape

/-- A number is loaded from its numeral exactly if it is an amount. -/
theorem load_numeral_eq_ok {s : Shape} (hs : s.IsAmount) {origin : Origin} {n : Int} {x : Value} :
    s.load origin (.text (Text.ofInt n)) = .ok x ↔ x = .int n ∧ 0 ≤ n ∧ n < twoTo 128 := by
  have hamount : ∀ {x}, Written Family.amountShape x (.text (Text.ofInt n)) ↔
      x = .int n ∧ 0 ≤ n ∧ n < twoTo 128 := by
    intro x
    constructor
    · intro h
      cases h with
      | wide hwritten hfits =>
        have hn := hwritten.eq_of_ofInt
        exact ⟨by rw [hn], by omega, by omega⟩
    · rintro ⟨rfl, hnonneg, hfits⟩
      obtain ⟨k, rfl⟩ := Int.eq_ofNat_of_zero_le hnonneg
      have hk : k < twoTo 128 := Int.ofNat_lt.mp hfits
      exact .wide (.decimal (by decide) hk) hk
  rcases hs with rfl | rfl
  · rw [load_eq_ok rfl, hamount]
  · rw [load_eq_ok rfl, ← hamount]
    constructor
    · intro h
      cases h with
      | some _ hwritten => exact hwritten
    · intro h
      exact .some Json.noConfusion h

/-- A number is dumped as its numeral, whether or not it is an amount. -/
theorem dumpText?_int {s : Shape} (hs : s.IsAmount) (n : Int) :
    s.dumpText? (.int n) = some (Json.text (Text.ofInt n)).messageText := by
  have hdump : s.isShallow (.int n) = true ∧ s.dump (.int n) = .text (Text.ofInt n) := by
    rcases hs with rfl | rfl
    · exact ⟨rfl, rfl⟩
    · exact ⟨rfl, rfl⟩
  unfold dumpText?
  rw [if_pos hdump.1, hdump.2]
  exact Json.valueText?_text Json.isPrintable_of_mem_ofInt

end Shape

/-! ## Responses -/

namespace Message

/-- A query for an amount. -/
def AsksAmount (m : Message) : Prop := ∃ s, m.responseShape? = some s ∧ s.IsAmount

/-- The text of a response is read as a value. -/
def IsReadAs (m : Message) (sent : Text) (value : Value) : Prop :=
  ∃ data, (Source.bytes (Encoding.encodeUtf8 sent)).json .unlimited = .ok data
    ∧ m.decodeResponse data = .ok value

/-- How a number is written in response to a query for an amount. -/
def amountText (n : Int) : Text := (Json.text (Text.ofInt n)).messageText

/-- Any number is written. -/
theorem encodeResponse_amount {m : Message} (hm : m.AsksAmount) (n : Int) :
    m.encodeResponse (.int n) = .ok (amountText n) := by
  obtain ⟨s, hresponse, hs⟩ := hm
  unfold encodeResponse
  simp only [hresponse, Shape.dumpText?_int hs]
  rfl

theorem decodeResponse_eq_ok {m : Message} {s : Shape} (h : m.responseShape? = some s)
    {data : Json} {value : Value} :
    m.decodeResponse data = .ok value ↔ s.load .value data = .ok value := by
  unfold decodeResponse
  simp only [h]
  cases s.load .value data with
  | ok x => simp
  | error issues =>
    cases m.tag? with
    | none => simp
    | some tag => simp

/-- What is written is read as the number if it is an amount, and otherwise as
    nothing. -/
theorem isReadAs_amountText {m : Message} (hm : m.AsksAmount) {n : Int} {value : Value} :
    m.IsReadAs (amountText n) value ↔ value = .int n ∧ 0 ≤ n ∧ n < twoTo 128 := by
  obtain ⟨s, hresponse, hs⟩ := hm
  unfold IsReadAs amountText
  rw [Json.json_text Json.isPrintable_of_mem_ofInt]
  simp only [Except.ok.injEq, decodeResponse_eq_ok hresponse, exists_eq_left',
    Shape.load_numeral_eq_ok hs]

end Message

end ShareVault
