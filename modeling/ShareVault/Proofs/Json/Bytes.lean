import ShareVault.Proofs.Json.RoundTrip
import ShareVault.Proofs.Text.Encoding
import ShareVault.Wire.Union

/-! # Messages as bytes

    A message is printable ASCII throughout, so its bytes are taken for UTF-8 and
    are the text again.

    Main statements:
    - `forall_mem_write`: which code points the text of a value has;
    - `json_messageText`: what the bytes of a message are read as.
-/

namespace ShareVault.Json

open Text

/-! ## The code points of a text -/

/-- A code point that is printable ASCII. -/
def IsPrintable (c : CodePoint) : Prop := 0x20 ≤ c.val ∧ c.val < 0x7F

instance : DecidablePred IsPrintable :=
  fun c => inferInstanceAs (Decidable (0x20 ≤ c.val ∧ c.val < 0x7F))

theorem isPrintable_of_isDigit {c : CodePoint} (h : c.isDigit = true) : IsPrintable c := by
  simp only [CodePoint.isDigit, Bool.and_eq_true, decide_eq_true_eq] at h
  unfold IsPrintable
  omega

theorem isPrintable_of_mem_ofInt {n : Int} : ∀ c ∈ ofInt n, IsPrintable c := by
  have hdecimal : ∀ n, ∀ c ∈ decimal n, IsPrintable c := by
    intro n c hc
    have hall := decimal_all_isDigit n
    rw [List.all_eq_true] at hall
    exact isPrintable_of_isDigit (hall c hc)
  intro c hc
  cases n with
  | ofNat n => exact hdecimal n c hc
  | negSucc n =>
    rcases List.mem_cons.mp hc with rfl | hdigits
    · exact ⟨by decide, by decide⟩
    · exact hdecimal (n + 1) c hdigits

theorem isSurrogate_of_isPrintable {c : CodePoint} (h : IsPrintable c) : c.isSurrogate = false := by
  have hhigh := h.2
  have hvalue : ¬ 0xD800 ≤ c.val := by omega
  simp [CodePoint.isSurrogate, hvalue]

/-- For a given text the code points can be checked one by one. -/
theorem isPrintable_of_all {t : Text} (h : t.all (fun c => decide (IsPrintable c)) = true) :
    ∀ c ∈ t, IsPrintable c := by
  intro c hc
  exact of_decide_eq_true (List.all_eq_true.mp h c hc)

section Points

variable {s : JsonStyle} {p : CodePoint → Prop}

/-- All that the style has for the code points of a text has the property. -/
def ShownAs (s : JsonStyle) (p : CodePoint → Prop) (t : Text) : Prop :=
  ∀ c ∈ t, ∀ d ∈ s.point c, p d

theorem forall_mem_quote (hascii : ∀ c, IsPrintable c → p c) {t : Text} (ht : ShownAs s p t) :
    ∀ d ∈ s.quote t, p d := by
  have hquote : p (CodePoint.ofChar '"') := hascii _ ⟨by decide, by decide⟩
  intro d hd
  unfold JsonStyle.quote at hd
  rw [List.cons_append, List.mem_cons, List.mem_append, List.mem_singleton] at hd
  rcases hd with rfl | hinside | rfl
  · exact hquote
  · obtain ⟨c, hmem, hc⟩ := List.mem_flatMap.mp hinside
    exact ht c hmem d hc
  · exact hquote

mutual

/-- What holds of printable ASCII and of what is written for the texts of a value
    holds of the whole text. -/
theorem forall_mem_write_of_allTexts (hascii : ∀ c, IsPrintable c → p c) :
    ∀ {v : Json}, v.IsPlain → v.AllTexts (ShownAs s p) → ∀ d ∈ v.write s, p d
  | .null, _, _, d, hd => hascii d (isPrintable_of_all (t := "null") (by decide) d hd)
  | .bool true, _, _, d, hd => hascii d (isPrintable_of_all (t := "true") (by decide) d hd)
  | .bool false, _, _, d, hd => hascii d (isPrintable_of_all (t := "false") (by decide) d hd)
  | .int n, _, _, d, hd => hascii d (isPrintable_of_mem_ofInt d hd)
  | .text _, _, ht, d, hd => forall_mem_quote hascii ht d hd
  | .array items, hitems, htexts, d, hd => by
    rcases List.mem_cons.mp hd with rfl | hrest
    · exact hascii _ ⟨by decide, by decide⟩
    · exact forall_mem_writeItems hascii hitems htexts d hrest
  | .object members, hmembers, htexts, d, hd => by
    rcases List.mem_cons.mp hd with rfl | hrest
    · exact hascii _ ⟨by decide, by decide⟩
    · exact forall_mem_writeMembers hascii hmembers.2 htexts d hrest

theorem forall_mem_writeItems (hascii : ∀ c, IsPrintable c → p c) :
    ∀ {vs : List Json}, PlainItems vs → AllItemTexts (ShownAs s p) vs →
      ∀ d ∈ writeItems s vs, p d
  | [], _, _, d, hd => by
    obtain rfl := List.mem_singleton.mp hd
    exact hascii _ ⟨by decide, by decide⟩
  | [v], hv, htexts, d, hd => by
    rw [Parser.writeItems_singleton, List.mem_append, List.mem_singleton] at hd
    rcases hd with hfirst | rfl
    · exact forall_mem_write_of_allTexts hascii hv.1 htexts.1 d hfirst
    · exact hascii _ ⟨by decide, by decide⟩
  | v :: w :: vs, hvs, htexts, d, hd => by
    rw [Parser.writeItems_cons, List.mem_append, List.mem_cons] at hd
    rcases hd with hfirst | rfl | hrest
    · exact forall_mem_write_of_allTexts hascii hvs.1 htexts.1 d hfirst
    · exact hascii _ ⟨by decide, by decide⟩
    · exact forall_mem_writeItems hascii hvs.2 htexts.2 d hrest

theorem forall_mem_writeMembers (hascii : ∀ c, IsPrintable c → p c) :
    ∀ {ms : Members}, PlainMembers ms → AllMemberTexts (ShownAs s p) ms →
      ∀ d ∈ writeMembers s ms, p d
  | [], _, _, d, hd => by
    obtain rfl := List.mem_singleton.mp hd
    exact hascii _ ⟨by decide, by decide⟩
  | [(k, v)], hv, htexts, d, hd => by
    rw [Parser.writeMembers_singleton, List.mem_append, List.mem_cons, List.mem_append,
      List.mem_singleton] at hd
    rcases hd with hkey | rfl | hfirst | rfl
    · exact forall_mem_quote hascii htexts.1 d hkey
    · exact hascii _ ⟨by decide, by decide⟩
    · exact forall_mem_write_of_allTexts hascii hv.1 htexts.2.1 d hfirst
    · exact hascii _ ⟨by decide, by decide⟩
  | (k, v) :: (k', w) :: ms, hms, htexts, d, hd => by
    rw [Parser.writeMembers_cons, List.mem_append, List.mem_cons, List.mem_append,
      List.mem_cons] at hd
    rcases hd with hkey | rfl | hfirst | rfl | hrest
    · exact forall_mem_quote hascii htexts.1 d hkey
    · exact hascii _ ⟨by decide, by decide⟩
    · exact forall_mem_write_of_allTexts hascii hms.1 htexts.2.1 d hfirst
    · exact hascii _ ⟨by decide, by decide⟩
    · exact forall_mem_writeMembers hascii hms.2 htexts.2.2 d hrest

end

/-- What holds of printable ASCII and of what is written for code points holds of
    the whole text. -/
theorem forall_mem_write (hascii : ∀ c, IsPrintable c → p c)
    (hpoint : ∀ c, ∀ d ∈ s.point c, p d) {v : Json} (hv : v.IsPlain) : ∀ d ∈ v.write s, p d :=
  forall_mem_write_of_allTexts hascii hv (allTexts_of_forall (fun _ c _ => hpoint c) v)

/-- The bytes of a text are taken for UTF-8, as long as no code point is written
    with NUL. -/
theorem decodeText_write (hpoint : ∀ c, ∀ d ∈ s.point c, d.val ≠ 0) {v : Json}
    (hv : v.IsPlain) : Encoding.decodeText (Encoding.encodeUtf8 (v.write s)) = some (v.write s) := by
  have hascii : ∀ c, IsPrintable c → c.val ≠ 0 := by
    intro c hc
    have hlow := hc.1
    omega
  have hzero := forall_mem_write hascii hpoint hv
  obtain ⟨c, t, heq, -, -, hc⟩ := Parser.exists_write_eq_cons s hv
  rw [heq] at hzero ⊢
  exact Encoding.decodeText_encodeUtf8 hc hzero

end Points

/-! ## Messages -/

theorem isPrintable_of_mem_hex {width n : Nat} : ∀ d ∈ hex width n, IsPrintable d := by
  have hdigit : ∀ n, n < 16 → IsPrintable (CodePoint.hexDigit n) := by
    decide
  induction width generalizing n with
  | zero =>
    intro d hd
    cases hd
  | succ width ih =>
    intro d hd
    unfold hex at hd
    rw [List.mem_append, List.mem_singleton] at hd
    rcases hd with hfront | rfl
    · exact ih d hfront
    · exact hdigit _ (by omega)

theorem isPrintable_of_mem_unitEscape {n : Nat} :
    ∀ d ∈ JsonStyle.unitEscape n, IsPrintable d := by
  intro d hd
  unfold JsonStyle.unitEscape at hd
  rw [List.mem_append] at hd
  rcases hd with hfront | hdigits
  · exact isPrintable_of_all (t := "\\u") (by decide) d hfront
  · exact isPrintable_of_mem_hex d hdigits

/-- What a message has for a code point is printable ASCII. -/
theorem isPrintable_of_mem_asciiPoint (c : CodePoint) :
    ∀ d ∈ JsonStyle.asciiPoint c, IsPrintable d := by
  intro d hd
  unfold JsonStyle.asciiPoint at hd
  split at hd
  · next escape hshort =>
    obtain ⟨-, e, rfl, -, -, he⟩ := Parser.escaped?_of_shortEscape? hshort
    simp only [List.mem_cons, List.not_mem_nil, or_false] at hd
    rcases hd with rfl | rfl
    · exact ⟨by decide, by decide⟩
    · exact he
  · next hlong =>
    split at hd
    · next hprintable =>
      rw [Bool.and_eq_true, decide_eq_true_eq, decide_eq_true_eq] at hprintable
      rw [List.mem_singleton] at hd
      subst hd
      exact hprintable
    split at hd
    · exact isPrintable_of_mem_unitEscape d hd
    · rw [List.mem_append] at hd
      rcases hd with hhigh | hlow
      · exact isPrintable_of_mem_unitEscape d hhigh
      · exact isPrintable_of_mem_unitEscape d hlow

/-- The bytes of a message are read as its value with surrogates joined. -/
theorem json_messageText {v : Json} (hv : v.IsPlain) :
    (Source.bytes (Encoding.encodeUtf8 v.messageText)).json .unlimited = .ok v.joined := by
  have hdecode : Encoding.decodeText (Encoding.encodeUtf8 v.messageText) = some v.messageText := by
    apply decodeText_write _ hv
    intro c d hd
    have hlow := (isPrintable_of_mem_asciiPoint c d hd).1
    omega
  unfold Source.json
  simp only [hdecode]
  exact parseText_messageText hv

end ShareVault.Json
