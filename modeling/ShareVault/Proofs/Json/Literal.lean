import ShareVault.Json.Parser
import ShareVault.Json.Printer
import ShareVault.Proofs.Text.Digits
import ShareVault.Proofs.Text.Surrogates

/-! # Reading a quoted text back

    A message escapes what is not printable ASCII, a supplementary code point
    with two escapes. The reader takes each escape for a code point of its own,
    unless it is the second half of a pair whose first half was an escape too.
    So it reads the joined form of the text that was written.

    Main statements:
    - `literalText_asciiPoint`: what is written for one code point is read as a
      single push of that code point;
    - `literalText_ascii`: hence a quoted text is read as its joined form.
-/

namespace ShareVault.Json.Parser

open JsonStyle Encoding

/-! ## One step of the reader -/

variable {opening : Nat} {acc : Text} {afterHigh : Bool}

theorem literalText_quote (rest : Text) :
    literalText opening acc afterHigh (lit '"' :: rest) = .ok (acc.reverse, rest) := by
  unfold literalText
  rw [if_pos rfl]

theorem literalText_plain {c : CodePoint} (hquote : c ≠ lit '"') (hslash : c ≠ lit '\\')
    (hcontrol : 0x20 ≤ c.val) (t : Text) :
    literalText opening acc afterHigh (c :: t) = literalText opening (c :: acc) false t := by
  rw [literalText.eq_def]
  simp only [if_neg hquote, if_neg hslash, if_neg (show ¬ c.val < 0x20 by omega)]

theorem literalText_escape {e point : CodePoint} (hu : e ≠ lit 'u')
    (he : escaped? e = some point) (t : Text) :
    literalText opening acc afterHigh (lit '\\' :: e :: t)
      = literalText opening (point :: acc) false t := by
  rw [literalText.eq_def]
  simp only [if_neg (show lit '\\' ≠ lit '"' by decide), if_pos, if_neg hu, he]

theorem hex_four (n : Nat) : ∃ a b c d, Text.hex 4 n = [a, b, c, d] := ⟨_, _, _, _, rfl⟩

/-- An escape of four digits is a push, if the text goes on after it. -/
theorem literalText_unitEscape {n : Nat} (hn : n < 0x10000) {c : CodePoint} (t : Text) :
    literalText opening acc afterHigh (unitEscape n ++ c :: t)
      = literalText opening (pushEscaped acc afterHigh (CodePoint.ofNat n))
          (CodePoint.ofNat n).isHighSurrogate (c :: t) := by
  obtain ⟨h1, h2, h3, h4, hhex⟩ := hex_four n
  have hvalue : Text.hexValue? [h1, h2, h3, h4] = some n := by
    have hwidth : n % twoTo (4 * 4) = n := Nat.mod_eq_of_lt hn
    rw [← hhex, Text.hexValue?_hex, hwidth]
  have hescape : unitEscape n ++ c :: t
      = lit '\\' :: lit 'u' :: h1 :: h2 :: h3 :: h4 :: c :: t := by
    unfold unitEscape
    rw [hhex]
    rfl
  rw [hescape, literalText.eq_def]
  simp only [if_neg (show lit '\\' ≠ lit '"' by decide), if_pos, hvalue]

/-! ## One code point -/

theorem pushEscaped_of_not_isLowSurrogate {c : CodePoint} (h : c.isLowSurrogate = false) :
    pushEscaped acc afterHigh c = c :: acc := by
  cases acc with
  | nil => rfl
  | cons d acc => simp [pushEscaped, h]

theorem pushEscaped_pair {high low : CodePoint} (h : low.isLowSurrogate = true) :
    pushEscaped (high :: acc) true low = CodePoint.join high low :: acc := by
  simp [pushEscaped, h]

theorem escaped?_of_shortEscape? {c : CodePoint} {t : Text} (h : shortEscape? c = some t) :
    c.val < 0x80 ∧ ∃ e, t = [lit '\\', e] ∧ e ≠ lit 'u' ∧ escaped? e = some c
      ∧ 0x20 ≤ e.val ∧ e.val < 0x7F := by
  unfold shortEscape? at h
  split at h
  · next hc =>
    subst hc
    cases h
    exact ⟨by decide, lit '"', rfl, by decide, by decide, by decide, by decide⟩
  split at h
  · next hc =>
    subst hc
    cases h
    exact ⟨by decide, lit '\\', rfl, by decide, by decide, by decide, by decide⟩
  split at h
  · next hc =>
    obtain rfl : c = CodePoint.ofNat 0x08 := Fin.ext hc
    cases h
    exact ⟨by decide, lit 'b', rfl, by decide, by decide, by decide, by decide⟩
  split at h
  · next hc =>
    obtain rfl : c = CodePoint.ofNat 0x09 := Fin.ext hc
    cases h
    exact ⟨by decide, lit 't', rfl, by decide, by decide, by decide, by decide⟩
  split at h
  · next hc =>
    obtain rfl : c = CodePoint.ofNat 0x0A := Fin.ext hc
    cases h
    exact ⟨by decide, lit 'n', rfl, by decide, by decide, by decide, by decide⟩
  split at h
  · next hc =>
    obtain rfl : c = CodePoint.ofNat 0x0C := Fin.ext hc
    cases h
    exact ⟨by decide, lit 'f', rfl, by decide, by decide, by decide, by decide⟩
  split at h
  · next hc =>
    obtain rfl : c = CodePoint.ofNat 0x0D := Fin.ext hc
    cases h
    exact ⟨by decide, lit 'r', rfl, by decide, by decide, by decide, by decide⟩
  · cases h

theorem not_isSurrogateHalf {c : CodePoint} (h : c.val < 0xD800 ∨ 0x10000 ≤ c.val) :
    c.isHighSurrogate = false ∧ c.isLowSurrogate = false := by
  simp only [CodePoint.isHighSurrogate, CodePoint.isLowSurrogate, Bool.and_eq_false_iff,
    decide_eq_false_iff_not]
  omega

theorem not_isHighSurrogate_of_isLowSurrogate {c : CodePoint} (h : c.isLowSurrogate = true) :
    c.isHighSurrogate = false := by
  simp only [CodePoint.isLowSurrogate, Bool.and_eq_true, decide_eq_true_eq] at h
  simp only [CodePoint.isHighSurrogate, Bool.and_eq_false_iff, decide_eq_false_iff_not]
  omega

theorem ofNat_val (c : CodePoint) : CodePoint.ofNat c.val = c := Encoding.ofNat_eq_self c rfl

/-- The two halves that a supplementary code point is written with. -/
theorem surrogatePair (c : CodePoint) (h : 0x10000 ≤ c.val) :
    let high := CodePoint.ofNat (0xD800 + (c.val - 0x10000) / 0x400)
    let low := CodePoint.ofNat (0xDC00 + (c.val - 0x10000) % 0x400)
    high.isHighSurrogate = true ∧ high.isLowSurrogate = false ∧ low.isLowSurrogate = true
      ∧ low.isHighSurrogate = false ∧ CodePoint.join high low = c := by
  have hc : c.val < 0x110000 := c.isLt
  have hhigh : (CodePoint.ofNat (0xD800 + (c.val - 0x10000) / 0x400)).val
      = 0xD800 + (c.val - 0x10000) / 0x400 := Nat.mod_eq_of_lt (by omega)
  have hlow : (CodePoint.ofNat (0xDC00 + (c.val - 0x10000) % 0x400)).val
      = 0xDC00 + (c.val - 0x10000) % 0x400 := Nat.mod_eq_of_lt (by omega)
  simp only [CodePoint.isHighSurrogate, CodePoint.isLowSurrogate, CodePoint.join, hhigh, hlow,
    Bool.and_eq_true, Bool.and_eq_false_iff, decide_eq_true_eq, decide_eq_false_iff_not]
  refine ⟨by omega, by omega, by omega, by omega, ?_⟩
  exact Encoding.ofNat_eq_self c (by omega)

/-- What is written for a code point in a message is read as one push. -/
theorem literalText_asciiPoint (c : CodePoint) {d : CodePoint} (t : Text) :
    literalText opening acc afterHigh (asciiPoint c ++ d :: t)
      = literalText opening (pushEscaped acc afterHigh c) c.isHighSurrogate (d :: t) := by
  unfold asciiPoint
  split
  · next escape hshort =>
    obtain ⟨hascii, e, rfl, hu, he, -⟩ := escaped?_of_shortEscape? hshort
    obtain ⟨hhigh, hlow⟩ := not_isSurrogateHalf (c := c) (by omega)
    rw [hhigh, pushEscaped_of_not_isLowSurrogate hlow]
    exact literalText_escape hu he (d :: t)
  · next hlong =>
    split
    · next hprintable =>
      rw [Bool.and_eq_true, decide_eq_true_eq, decide_eq_true_eq] at hprintable
      have hquote : c ≠ lit '"' := by
        rintro rfl
        exact absurd hlong (by decide)
      have hslash : c ≠ lit '\\' := by
        rintro rfl
        exact absurd hlong (by decide)
      obtain ⟨hhigh, hlow⟩ := not_isSurrogateHalf (c := c) (by omega)
      rw [hhigh, pushEscaped_of_not_isLowSurrogate hlow]
      exact literalText_plain hquote hslash hprintable.1 (d :: t)
    split
    · next hbmp =>
      rw [literalText_unitEscape hbmp, ofNat_val]
    · next hsupplementary =>
      -- The first half is pushed, and the second half joins it.
      obtain ⟨hhigh, hhighLow, hlow, hlowHigh, hjoin⟩ := surrogatePair c (by omega)
      have hbound : c.val < 0x110000 := c.isLt
      have hsecond : ∃ e u, unitEscape (0xDC00 + (c.val - 0x10000) % 0x400) ++ d :: t = e :: u :=
        ⟨_, _, rfl⟩
      obtain ⟨e, u, heu⟩ := hsecond
      rw [List.append_assoc, heu, literalText_unitEscape (by omega), ← heu,
        literalText_unitEscape (by omega), hhigh, hlowHigh,
        pushEscaped_of_not_isLowSurrogate hhighLow]
      obtain ⟨hcHigh, hcLow⟩ := not_isSurrogateHalf (c := c) (by omega)
      rw [pushEscaped_pair hlow, hjoin, hcHigh, pushEscaped_of_not_isLowSurrogate hcLow]

/-! ## Quoted texts -/

/-- Where reading may stop: at the closing quote, whatever follows it. -/
theorem exists_flatMap_append (f : CodePoint → Text) (t rest : Text) :
    ∃ d u, t.flatMap f ++ lit '"' :: rest = d :: u := by
  cases h : t.flatMap f with
  | nil => exact ⟨_, _, rfl⟩
  | cons d u => exact ⟨_, _, rfl⟩

/-- Reading goes on after a first half that an escape wrote, or after anything
    else; in either case what is read in the end is joined. -/
theorem literalText_flatMap_asciiPoint (opening : Nat) (t rest : Text) :
    (∀ acc, literalText opening acc false (t.flatMap asciiPoint ++ lit '"' :: rest)
        = .ok (acc.reverse ++ joinSurrogates t, rest))
      ∧ ∀ acc high, high.isHighSurrogate = true →
        literalText opening (high :: acc) true (t.flatMap asciiPoint ++ lit '"' :: rest)
          = .ok (acc.reverse ++ joinSurrogates (high :: t), rest) := by
  induction t with
  | nil =>
    refine ⟨?_, ?_⟩
    · intro acc
      rw [List.flatMap_nil, List.nil_append, literalText_quote]
      simp [joinSurrogates]
    · intro acc high _
      rw [List.flatMap_nil, List.nil_append, literalText_quote]
      simp [joinSurrogates]
  | cons c t ih =>
    obtain ⟨hafterOther, hafterHigh⟩ := ih
    obtain ⟨d, u, hdu⟩ := exists_flatMap_append asciiPoint t rest
    -- After `c` the reader is in one of the two states of the hypothesis.
    have hgo : ∀ acc, literalText opening (c :: acc) c.isHighSurrogate
        (t.flatMap asciiPoint ++ lit '"' :: rest)
          = .ok (acc.reverse ++ joinSurrogates (c :: t), rest) := by
      intro acc
      cases hc : c.isHighSurrogate with
      | true => exact hafterHigh acc c hc
      | false =>
        rw [hafterOther (c :: acc), joinSurrogates_cons hc, List.reverse_cons,
          List.append_assoc, List.singleton_append]
    refine ⟨?_, ?_⟩
    · intro acc
      have hpush : pushEscaped acc false c = c :: acc := by
        cases acc with
        | nil => rfl
        | cons e acc => simp [pushEscaped]
      rw [List.flatMap_cons, List.append_assoc, hdu, literalText_asciiPoint, ← hdu, hpush]
      exact hgo acc
    · intro acc high hhigh
      rw [List.flatMap_cons, List.append_assoc, hdu, literalText_asciiPoint, ← hdu]
      cases hlow : c.isLowSurrogate with
      | true =>
        have hc : c.isHighSurrogate = false := not_isHighSurrogate_of_isLowSurrogate hlow
        rw [pushEscaped_pair hlow, hc, hafterOther, joinSurrogates_pair hhigh hlow, List.reverse_cons,
          List.append_assoc, List.singleton_append]
      | false =>
        rw [pushEscaped_of_not_isLowSurrogate hlow, hgo (high :: acc),
          joinSurrogates_cons_of_not_isLowSurrogate high hlow, List.reverse_cons,
          List.append_assoc, List.singleton_append]

/-- The inside of a quoted text of a message is read as the joined form. -/
theorem literalText_ascii (opening : Nat) (t rest : Text) :
    literalText opening [] false (t.flatMap asciiPoint ++ lit '"' :: rest)
      = .ok (joinSurrogates t, rest) :=
  (literalText_flatMap_asciiPoint opening t rest).1 []

end ShareVault.Json.Parser
