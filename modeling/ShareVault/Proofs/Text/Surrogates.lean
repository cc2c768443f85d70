import ShareVault.Text.Encoding

/-! # Surrogates side by side

    A text may hold surrogates, also a first half right before a second half.
    Written as two escapes such a pair is read back as the one code point that
    it stands for in UTF-16, so this is all that a text can lose on the way.

    Main statements:
    - `joinSurrogates_eq_self_iff`: a text without such a pair, and no other, is
      its own joined form;
    - `isJoined_of_isWellFormed`: a text without surrogates has no such pair.
-/

namespace ShareVault

namespace Text

/-- No first half of a surrogate pair stands right before a second half. -/
def isJoined : Text → Bool
  | [] => true
  | [_] => true
  | c :: d :: t => !(c.isHighSurrogate && d.isLowSurrogate) && isJoined (d :: t)

theorem isJoined_cons_of_not_isHighSurrogate {c : CodePoint} (h : c.isHighSurrogate = false)
    (t : Text) : isJoined (c :: t) = isJoined t := by
  cases t with
  | nil => rfl
  | cons d t => simp [isJoined, h]

theorem isHighSurrogate_of_isSurrogate_eq_false {c : CodePoint} (h : c.isSurrogate = false) :
    c.isHighSurrogate = false := by
  unfold CodePoint.isSurrogate at h
  unfold CodePoint.isHighSurrogate
  rw [Bool.and_eq_false_iff, decide_eq_false_iff_not, decide_eq_false_iff_not] at h ⊢
  omega

theorem isJoined_of_isWellFormed {t : Text} (h : t.isWellFormed = true) : t.isJoined = true := by
  induction t with
  | nil => rfl
  | cons c t ih =>
    simp only [isWellFormed, List.all_cons, Bool.and_eq_true, Bool.not_eq_true'] at h
    rw [isJoined_cons_of_not_isHighSurrogate (isHighSurrogate_of_isSurrogate_eq_false h.1)]
    exact ih h.2

end Text

namespace Encoding

open Text

/-! ## Joining -/

theorem joinSurrogates_cons {c : CodePoint} (h : c.isHighSurrogate = false) (t : Text) :
    joinSurrogates (c :: t) = c :: joinSurrogates t := by
  cases t with
  | nil => rfl
  | cons d t => simp [joinSurrogates, h]

theorem joinSurrogates_pair {high low : CodePoint} (hh : high.isHighSurrogate = true)
    (hl : low.isLowSurrogate = true) (t : Text) :
    joinSurrogates (high :: low :: t) = CodePoint.join high low :: joinSurrogates t := by
  simp [joinSurrogates, hh, hl]

theorem joinSurrogates_cons_of_not_isLowSurrogate (c : CodePoint) {d : CodePoint}
    (h : d.isLowSurrogate = false) (t : Text) :
    joinSurrogates (c :: d :: t) = c :: joinSurrogates (d :: t) := by
  simp [joinSurrogates, h]

theorem length_joinSurrogates_le (t : Text) : (joinSurrogates t).length ≤ t.length := by
  fun_induction joinSurrogates t with
  | case1 => exact Nat.le_refl _
  | case2 c => exact Nat.le_refl _
  | case3 c d t hpair ih =>
    simp only [List.length_cons]
    omega
  | case4 c d t hpair ih =>
    simp only [List.length_cons] at ih ⊢
    omega

/-- A text is its own joined form exactly if there is nothing to join. -/
theorem joinSurrogates_eq_self_iff {t : Text} : joinSurrogates t = t ↔ t.isJoined = true := by
  fun_induction joinSurrogates t with
  | case1 => simp [isJoined]
  | case2 c => simp [isJoined]
  | case3 c d t hpair ih =>
    -- A joined pair makes the text shorter, so it cannot be the same.
    simp only [isJoined, hpair, Bool.not_true, Bool.false_and, Bool.false_eq_true, iff_false]
    intro heq
    have hlength := congrArg List.length heq
    have hle := length_joinSurrogates_le t
    simp only [List.length_cons] at hlength
    omega
  | case4 c d t hpair ih =>
    simp only [isJoined, hpair, Bool.not_false, Bool.true_and, List.cons.injEq, true_and]
    exact ih

theorem joinSurrogates_of_isWellFormed {t : Text} (h : t.isWellFormed = true) :
    joinSurrogates t = t :=
  joinSurrogates_eq_self_iff.mpr (isJoined_of_isWellFormed h)

end Encoding

end ShareVault
