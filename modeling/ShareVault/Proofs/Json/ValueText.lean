import ShareVault.Proofs.Json.Bytes

/-! # Reading the text of a value back

    The text of a value shows every code point as it is, but for quotes, the
    backslash and control characters. So nothing has to be joined, and reading
    gives the value again.

    Main statements:
    - `readsAs_value`: a quoted text is read as the text;
    - `json_valueText`: the bytes of a value are read as the value.
-/

namespace ShareVault.Json

open JsonStyle

/-! ## Quoted texts -/

namespace Parser

variable {opening : Nat} {acc : Text}

/-- What is written for a code point in a value is read as the code point. -/
theorem literalText_plainPoint (c : CodePoint) {d : CodePoint} (t : Text) :
    literalText opening acc false (plainPoint c ++ d :: t)
      = literalText opening (c :: acc) false (d :: t) := by
  unfold plainPoint
  split
  · next escape hshort =>
    obtain ⟨-, e, rfl, hu, he, -⟩ := escaped?_of_shortEscape? hshort
    exact literalText_escape hu he (d :: t)
  · next hlong =>
    split
    · next hcontrol =>
      obtain ⟨hhigh, hlow⟩ := not_isSurrogateHalf (c := c) (by omega)
      rw [literalText_unitEscape (by omega), ofNat_val, hhigh,
        pushEscaped_of_not_isLowSurrogate hlow]
    · next hplain =>
      have hquote : c ≠ lit '"' := by
        rintro rfl
        exact absurd hlong (by decide)
      have hslash : c ≠ lit '\\' := by
        rintro rfl
        exact absurd hlong (by decide)
      exact literalText_plain hquote hslash (by omega) (d :: t)

theorem literalText_flatMap_plainPoint (opening : Nat) (acc t rest : Text) :
    literalText opening acc false (t.flatMap plainPoint ++ lit '"' :: rest)
      = .ok (acc.reverse ++ t, rest) := by
  induction t generalizing acc with
  | nil =>
    rw [List.flatMap_nil, List.nil_append, literalText_quote, List.append_nil]
  | cons c t ih =>
    obtain ⟨d, u, hdu⟩ := exists_flatMap_append plainPoint t rest
    rw [List.flatMap_cons, List.append_assoc, hdu, literalText_plainPoint, ← hdu, ih,
      List.reverse_cons, List.append_assoc, List.singleton_append]

/-- A quoted text of a value is read as it is. -/
theorem readsAs_value : ReadsAs .value id :=
  fun opening t rest => literalText_flatMap_plainPoint opening [] t rest

end Parser

/-! ## Values -/

/-- What a value has for a code point is never NUL. -/
theorem ne_zero_of_mem_plainPoint (c : CodePoint) : ∀ d ∈ plainPoint c, d.val ≠ 0 := by
  intro d hd
  unfold plainPoint at hd
  split at hd
  · next escape hshort =>
    obtain ⟨-, e, rfl, -, -, he, -⟩ := Parser.escaped?_of_shortEscape? hshort
    simp only [List.mem_cons, List.not_mem_nil, or_false] at hd
    rcases hd with rfl | rfl
    · decide
    · omega
  · split at hd
    · have hlow := (isPrintable_of_mem_unitEscape d hd).1
      omega
    · rw [List.mem_singleton] at hd
      subst hd
      omega

/-- The text of a value is read as the value. -/
theorem parseText_valueText {v : Json} (hv : v.IsPlain) :
    parseText .unlimited (v.write .value) = .ok v := by
  have hsame : v.reread Members.set id = v :=
    reread_eq_self (fun _ _ => rfl) hv (allTexts_of_forall (fun t => Eq.refl t) v)
  unfold parseText
  rw [Parser.document_write Parser.readsAs_value hv, hsame]
  rfl

/-- The bytes of a value are read as the value. -/
theorem json_valueText {v : Json} (hv : v.IsPlain) :
    (Source.bytes (Encoding.encodeUtf8 (v.write .value))).json .unlimited = .ok v := by
  have hdecode := decodeText_write (s := .value) ne_zero_of_mem_plainPoint hv
  unfold Source.json
  simp only [hdecode]
  exact parseText_valueText hv

end ShareVault.Json
