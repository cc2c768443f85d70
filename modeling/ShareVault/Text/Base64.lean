import ShareVault.Text.Digits

/-! # Base64

    Bytes as base64 letters.

    Decoding is strict: only letters and padding count, and the last quad is
    filled up with exactly the padding it needs. Padding after a full quad is
    superfluous and let through, and the unused bits of the last letter are
    not looked at, so several texts decode to the same bytes.

    Main statement: `decode?_encode`, decoding undoes encoding.
-/

namespace ShareVault.Base64

/-- The letter of a number below 64. -/
def letter (n : Nat) : CodePoint :=
  if n < 26 then CodePoint.ofNat (0x41 + n)
  else if n < 52 then CodePoint.ofNat (0x61 + (n - 26))
  else if n < 62 then CodePoint.ofNat (0x30 + (n - 52))
  else if n = 62 then CodePoint.ofChar '+'
  else CodePoint.ofChar '/'

/-- The number of a letter. -/
def value? (c : CodePoint) : Option Nat :=
  if c.isUpper then some (c.val - 0x41)
  else if c.isLower then some (c.val - 0x61 + 26)
  else if c.isDigit then some (c.val - 0x30 + 52)
  else if c = CodePoint.ofChar '+' then some 62
  else if c = CodePoint.ofChar '/' then some 63
  else none

/-- The padding of the last quad. -/
def pad : CodePoint := CodePoint.ofChar '='

theorem value?_letter : ∀ n, n < 64 → value? (letter n) = some n := by decide

theorem letter_ne_pad : ∀ n, n < 64 → letter n ≠ pad := by decide

/-- Four letters for each three bytes, the last quad padded. -/
def encode : Bytes → Text
  | [] => []
  | [a] =>
    let a := a.toNat
    [letter (a / 4), letter (a % 4 * 16), pad, pad]
  | [a, b] =>
    let a := a.toNat; let b := b.toNat
    [letter (a / 4), letter (a % 4 * 16 + b / 16), letter (b % 16 * 4), pad]
  | a :: b :: c :: t =>
    let x := a.toNat; let y := b.toNat; let z := c.toNat
    letter (x / 4) :: letter (x % 4 * 16 + y / 16) :: letter (y % 16 * 4 + z / 64)
      :: letter (z % 64) :: encode t

/-- The bytes of quads of letters, after which superfluous padding may stand. -/
def decodeQuads : Text → Option Bytes
  | a :: b :: c :: d :: t =>
    if (a :: b :: c :: d :: t).all (· = pad) then some []
    else do
      let x ← value? a
      let y ← value? b
      let first := UInt8.ofNat (x * 4 + y / 16)
      if c = pad then
        if d = pad && t.isEmpty then some [first] else none
      else
        let z ← value? c
        let second := UInt8.ofNat (y % 16 * 16 + z / 4)
        if d = pad then
          if t.isEmpty then some [first, second] else none
        else
          let w ← value? d
          let rest ← decodeQuads t
          some (first :: second :: UInt8.ofNat (z % 4 * 64 + w) :: rest)
  | t => if t.all (· = pad) then some [] else none

/-- The bytes that the letters write. -/
def decode? : Text → Option Bytes
  | [] => some []
  | c :: t => if c = pad then none else decodeQuads (c :: t)

/-! ## Decoding undoes encoding -/

theorem ofNat_eq_of_toNat (a : UInt8) {n : Nat} (h : n = a.toNat) : UInt8.ofNat n = a := by
  rw [h]
  exact UInt8.ofNat_toNat

theorem decodeQuads_encode (b : Bytes) : decodeQuads (encode b) = some b := by
  fun_induction encode b with
  | case1 => rfl
  -- One byte left over: two letters and two pads.
  | case2 a x =>
    have hx : x < 256 := a.toNat_lt
    simp [-UInt8.ofNat_add, -UInt8.ofNat_mul, decodeQuads,
      letter_ne_pad (x / 4) (by omega), value?_letter (x / 4) (by omega),
      value?_letter (x % 4 * 16) (by omega)]
    exact ofNat_eq_of_toNat a (by omega)
  -- Two bytes left over: three letters and one pad.
  | case3 a b x y =>
    have hx : x < 256 := a.toNat_lt
    have hy : y < 256 := b.toNat_lt
    simp [-UInt8.ofNat_add, -UInt8.ofNat_mul, decodeQuads,
      letter_ne_pad (x / 4) (by omega), value?_letter (x / 4) (by omega),
      value?_letter (x % 4 * 16 + y / 16) (by omega), letter_ne_pad (y % 16 * 4) (by omega),
      value?_letter (y % 16 * 4) (by omega)]
    exact ⟨ofNat_eq_of_toNat a (by omega), ofNat_eq_of_toNat b (by omega)⟩
  -- A whole group, and the groups after it.
  | case4 a b c t x y z ih =>
    have hx : x < 256 := a.toNat_lt
    have hy : y < 256 := b.toNat_lt
    have hz : z < 256 := c.toNat_lt
    simp [-UInt8.ofNat_add, -UInt8.ofNat_mul, decodeQuads,
      letter_ne_pad (x / 4) (by omega), value?_letter (x / 4) (by omega),
      value?_letter (x % 4 * 16 + y / 16) (by omega),
      letter_ne_pad (y % 16 * 4 + z / 64) (by omega),
      value?_letter (y % 16 * 4 + z / 64) (by omega), letter_ne_pad (z % 64) (by omega),
      value?_letter (z % 64) (by omega), ih]
    exact ⟨ofNat_eq_of_toNat a (by omega), ofNat_eq_of_toNat b (by omega),
      ofNat_eq_of_toNat c (by omega)⟩

theorem decode?_encode (b : Bytes) : decode? (encode b) = some b := by
  cases h : encode b with
  | nil =>
    have := decodeQuads_encode b
    rw [h] at this
    exact this
  | cons c t =>
    have hc : c ≠ pad := by
      revert h
      cases b with
      | nil => simp [encode]
      | cons a b =>
        have ha : a.toNat < 256 := a.toNat_lt
        have hl := letter_ne_pad (a.toNat / 4) (by omega)
        rcases b with _ | ⟨b, _ | ⟨d, t'⟩⟩ <;>
          (intro h; simp only [encode, List.cons.injEq] at h; exact h.1 ▸ hl)
    rw [decode?, if_neg hc, ← h]
    exact decodeQuads_encode b

end ShareVault.Base64
