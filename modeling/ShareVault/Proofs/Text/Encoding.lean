import ShareVault.Text.Encoding

/-! # Finding out about UTF-8

    The encoding of some bytes is guessed from a mark or from the zero bytes among
    the first four. A text that begins with ASCII and holds no NUL has neither a
    mark nor a zero byte in UTF-8, so it is decoded as what it is.

    Main statement: `decodeText_encodeUtf8`.
-/

namespace ShareVault.Encoding

/-- Bytes that begin like ASCII and of which none is zero are taken for UTF-8. -/
theorem decodeText_of_ne_zero {a : UInt8} {bytes : Bytes} (ha : a < 0x80)
    (hzero : ∀ b ∈ a :: bytes, b ≠ 0) : decodeText (a :: bytes) = decodeUtf8 (a :: bytes) := by
  have hne : ∀ b : UInt8, 0x80 ≤ b → a ≠ b := by
    rintro b hb rfl
    exact absurd ha (UInt8.not_lt.mpr hb)
  have ha0 : a ≠ 0 := hzero a (List.mem_cons_self ..)
  -- Every mark begins with a zero byte or with one outside ASCII.
  unfold decodeText
  split
  · next heq => exact absurd (List.cons.inj heq).1 ha0
  · next heq => exact absurd (List.cons.inj heq).1 (hne _ (by decide))
  · next heq => exact absurd (List.cons.inj heq).1 (hne _ (by decide))
  · next heq => exact absurd (List.cons.inj heq).1 (hne _ (by decide))
  · next heq => exact absurd (List.cons.inj heq).1 (hne _ (by decide))
  · split
    · next b c heq =>
      have hb : b ≠ 0 := hzero b (by simp [heq])
      have hc : c ≠ 0 := hzero c (by simp [heq])
      rw [if_neg hb, if_neg hc]
    · next b c d e f heq =>
      have hb : b ≠ 0 := hzero b (by simp [heq])
      have hc : c ≠ 0 := hzero c (by simp [heq])
      rw [if_neg hb, if_neg hc]
    · rfl

theorem ofNat_ne_zero {n : Nat} (hpos : 0 < n) (hn : n < 256) : UInt8.ofNat n ≠ 0 := by
  intro heq
  have hnat := congrArg UInt8.toNat heq
  rw [toNat_ofNat_of_lt hn] at hnat
  have hzero : (0 : UInt8).toNat = 0 := rfl
  omega

theorem ne_zero_of_mem_encodeUtf8Point {c : CodePoint} (hc : c.val ≠ 0) :
    ∀ b ∈ encodeUtf8Point c, b ≠ 0 := by
  have hbound : c.val < 0x110000 := c.isLt
  intro b hb
  unfold encodeUtf8Point at hb
  simp only at hb
  split at hb
  · simp only [List.mem_cons, List.not_mem_nil, or_false] at hb
    subst hb
    exact ofNat_ne_zero (by omega) (by omega)
  split at hb
  · simp only [List.mem_cons, List.not_mem_nil, or_false] at hb
    rcases hb with rfl | rfl <;> exact ofNat_ne_zero (by omega) (by omega)
  split at hb
  · simp only [List.mem_cons, List.not_mem_nil, or_false] at hb
    rcases hb with rfl | rfl | rfl <;> exact ofNat_ne_zero (by omega) (by omega)
  · simp only [List.mem_cons, List.not_mem_nil, or_false] at hb
    rcases hb with rfl | rfl | rfl | rfl <;> exact ofNat_ne_zero (by omega) (by omega)

/-- A text that begins with ASCII and holds no NUL is found to be UTF-8. -/
theorem decodeText_encodeUtf8 {c : CodePoint} {t : Text} (hc : c.val < 0x80)
    (hzero : ∀ d ∈ c :: t, d.val ≠ 0) : decodeText (encodeUtf8 (c :: t)) = some (c :: t) := by
  have hfirst : encodeUtf8 (c :: t) = UInt8.ofNat c.val :: encodeUtf8 t := by
    have hone : encodeUtf8Point c = [UInt8.ofNat c.val] := if_pos hc
    unfold encodeUtf8
    rw [List.flatMap_cons, hone]
    rfl
  have hascii : UInt8.ofNat c.val < 0x80 := by
    rw [UInt8.lt_iff_toNat_lt, toNat_ofNat_of_lt (by omega)]
    exact hc
  have hnonzero : ∀ b ∈ encodeUtf8 (c :: t), b ≠ 0 := by
    intro b hb
    obtain ⟨d, hd, hbd⟩ := List.mem_flatMap.mp hb
    exact ne_zero_of_mem_encodeUtf8Point (hzero d hd) b hbd
  have hdecode := decodeUtf8_encodeUtf8 (c :: t)
  rw [hfirst] at hnonzero hdecode ⊢
  rw [decodeText_of_ne_zero hascii hnonzero, hdecode]

end ShareVault.Encoding
