import ShareVault.Text.Basic

/-! # Punycode

    Texts in letters of ASCII. The ASCII code points of a text come first, then a
    hyphen, then numbers that tell where the others go: they are put in one after
    the other, by code point and by place, and a number counts the places that are
    passed since the last one. Numbers are written in mixed base 36, the smallest
    place first, with thresholds that adapt to the numbers so far.

    Main statements:
    - `digitValue?_digit`: a digit is read back;
    - `threshold_pos`, `threshold_le`: a threshold leaves room for a digit on
      either side.
-/

namespace ShareVault.Punycode

/-! ## Digits and thresholds -/

/-- The digit of a number below 36: a letter, or a decimal digit. -/
def digit (d : Nat) : CodePoint :=
  if d < 26 then CodePoint.ofNat (0x61 + d) else CodePoint.ofNat (0x30 + (d - 26))

/-- The number of a digit, whatever its case. -/
def digitValue? (c : CodePoint) : Option Nat :=
  if c.isLower then some (c.val - 0x61)
  else if c.isUpper then some (c.val - 0x41)
  else if c.isDigit then some (c.val - 0x30 + 26)
  else none

theorem digitValue?_digit : ∀ d, d < 36 → digitValue? (digit d) = some d := by decide

/-- The least digit at a place that is not the last one of its number. Places are
    counted by 36, from 36. -/
def threshold (place bias : Nat) : Nat := max 1 (min 26 (place - bias))

theorem threshold_pos (place bias : Nat) : 0 < threshold place bias := by
  simp only [threshold]; omega

theorem threshold_le (place bias : Nat) : threshold place bias ≤ 26 := by
  simp only [threshold]; omega

/-- The bias for numbers of the size of `delta`, of which `scaled` is known. -/
def biasOf (scaled delta : Nat) : Nat :=
  if 455 < delta then biasOf (scaled + 36) (delta / 35) else scaled + 36 * delta / (delta + 38)
termination_by delta
decreasing_by omega

/-- The bias after a number, when `points` code points are in place. The first
    number is taken for much larger than the ones to come. -/
def adapt (delta points : Nat) (first : Bool) : Nat :=
  let delta := if first then delta / 700 else delta / 2
  biasOf 0 (delta + delta / points)

/-- The bias before the first number. -/
def startBias : Nat := 72

/-! ## Writing -/

/-- The digits of a number, from a place on. -/
def number (bias place n : Nat) : Text :=
  let t := threshold place bias
  if n < t then [digit n]
  else digit (t + (n - t) % (36 - t)) :: number bias (place + 36) ((n - t) / (36 - t))
termination_by n
decreasing_by
  have hp := threshold_pos place bias
  exact Nat.lt_of_le_of_lt (Nat.div_le_self _ _) (by omega)

/-- What is written, the places passed since the last number, the bias, and the
    number of code points that are in place. -/
structure Progress where
  written : Text
  passed : Nat
  bias : Nat
  placed : Nat

/-- Passes one code point of the text while those equal to `point` are put in.
    There were `basic` code points of ASCII. -/
def Progress.pass (basic point : Nat) (p : Progress) (c : CodePoint) : Progress :=
  if c.val < point then { p with passed := p.passed + 1 }
  else if c.val = point then
    { written := p.written ++ number p.bias 36 p.passed
      passed := 0
      bias := adapt p.passed (p.placed + 1) (p.placed == basic)
      placed := p.placed + 1 }
  else p

/-- Puts in the code points with given numbers, in this order; all below `next`
    are in place. -/
def Progress.run (t : Text) (basic : Nat) : (points : List Nat) → (next : Nat) → Progress → Progress
  | [], _, p => p
  | point :: points, next, p =>
    -- Every place is passed once for each number between.
    let p := { p with passed := p.passed + (point - next) * (p.placed + 1) }
    let p := t.foldl (pass basic point) p
    run t basic points (point + 1) { p with passed := p.passed + 1 }

/-- The text in letters of ASCII. -/
def encode (t : Text) : Text :=
  let basic := t.filter CodePoint.isAscii
  let points := ((t.filter (!·.isAscii)).map Fin.val).mergeSort.eraseDups
  let start : Progress := ⟨[], 0, startBias, basic.length⟩
  basic ++ (if basic.isEmpty then [] else [CodePoint.ofChar '-'])
    ++ (Progress.run t basic.length points 0x80 start).written

/-! ## Reading -/

/-- A number from a place on, where a digit counts `weight` times; `n` is read
    already. -/
def numberAndRest? (bias : Nat) : (place weight n : Nat) → Text → Option (Nat × Text)
  | _, _, _, [] => none
  | place, weight, n, c :: rest =>
    match digitValue? c with
    | none => none
    | some d =>
      let t := threshold place bias
      if d < t then some (n + d * weight, rest)
      else numberAndRest? bias (place + 36) (weight * (36 - t)) (n + d * weight) rest

theorem numberAndRest?_length {bias place weight n m : Nat} {t rest : Text}
    (h : numberAndRest? bias place weight n t = some (m, rest)) : rest.length < t.length := by
  induction t generalizing place weight n with
  | nil => simp [numberAndRest?] at h
  | cons c t ih =>
    simp only [numberAndRest?] at h
    split at h
    · simp at h
    · split at h
      -- The last digit of the number.
      · simp only [Option.some.injEq, Prod.mk.injEq] at h
        simp [h.2]
      · have := ih h
        simp only [List.length_cons]
        omega

/-- Puts in the code points that the rest of a text tells: the last one had the
    number `point` and the place before `place`. No place is before the first. -/
def insertions? (bias point place : Nat) (placed rest : Text) : Option Text :=
  match rest with
  | [] => some placed
  | c :: t =>
    match _h : numberAndRest? bias 36 1 0 (c :: t) with
    | none => none
    | some (passed, rest) =>
      let places := placed.length + 1
      let i := place + passed
      let point := point + i / places
      if 0x10FFFF < point then none
      else
        insertions? (adapt passed places (place == 0)) point (i % places + 1)
          (placed.take (i % places) ++ CodePoint.ofNat point :: placed.drop (i % places)) rest
termination_by rest.length
decreasing_by exact numberAndRest?_length _h

/-- The code points before the last hyphen, and those after it. -/
def lastHyphen (t : Text) : Text × Text :=
  let hyphen := CodePoint.ofChar '-'
  let back := t.reverse.dropWhile (· ≠ hyphen)
  ((back.drop 1).reverse, (t.reverse.takeWhile (· ≠ hyphen)).reverse)

/-- The text that letters of ASCII stand for. -/
def decode? (t : Text) : Option Text :=
  let (basic, rest) := lastHyphen t
  insertions? startBias 0x80 0 basic rest

example : encode "bücher" = ("bcher-kva" : Text) := by decide +kernel

example : decode? "r8jz45g" = some ("例え" : Text) := by decide +kernel

end ShareVault.Punycode
