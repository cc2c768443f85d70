import ShareVault.Text.Percent

/-! # Reading percent escapes

    Whoever reads an address takes each percent sign with two hexadecimal digits
    for a byte, and all bytes together for UTF-8. A percent sign with anything else
    after it stands for itself.

    Main statements:
    - `decode?_append_encode`: escapes are read as what was escaped, as long as
      percent signs are escaped too;
    - `decode?_eq_self`: a text without percent signs is read as it is;
    - `length_le_encode`: no text gets shorter by escapes.
-/

namespace ShareVault.Percent

/-! ## Escapes read as bytes -/

/-- The sign in front of an escape. -/
def sign : CodePoint := CodePoint.ofChar '%'

/-- The byte that a percent sign and two hexadecimal digits stand for. -/
def byte? (c high low : CodePoint) : Option UInt8 :=
  if c = sign then do
    let h ← high.hexValue?
    let l ← low.hexValue?
    some (UInt8.ofNat (16 * h + l))
  else none

/-- The bytes of a text whose escapes stand for bytes. -/
def unescape : Text → Bytes
  | c :: d :: e :: t =>
    match byte? c d e with
    | some b => b :: unescape t
    | none => Encoding.encodeUtf8Point c ++ unescape (d :: e :: t)
  | t => Encoding.encodeUtf8 t

/-- The text whose bytes are there once escapes are read, if they are in UTF-8. -/
def decode? (t : Text) : Option Text := Encoding.decodeUtf8 (unescape t)

/-! ## Reading what was escaped -/

/-- A hexadecimal digit as a capital. -/
def capital (d : Nat) : CodePoint :=
  let c := CodePoint.hexDigit d
  if c.isLower then CodePoint.ofNat (c.val - 0x20) else c

theorem hexValue?_capital : ∀ d, d < 16 → (capital d).hexValue? = some d := by decide

theorem escape_eq (b : UInt8) :
    escape b = [sign, capital (b.toNat / 16 % 16), capital (b.toNat % 16)] := rfl

theorem unescape_escape (b : UInt8) (t : Text) : unescape (escape b ++ t) = b :: unescape t := by
  have hb : b.toNat < 256 := b.toNat_lt
  have hsum : 16 * (b.toNat / 16 % 16) + b.toNat % 16 = b.toNat := by omega
  have hbyte : byte? sign (capital (b.toNat / 16 % 16)) (capital (b.toNat % 16)) = some b := by
    unfold byte?
    rw [if_pos rfl, hexValue?_capital _ (Nat.mod_lt _ (by decide)),
      hexValue?_capital _ (Nat.mod_lt _ (by decide))]
    show some (UInt8.ofNat (16 * (b.toNat / 16 % 16) + b.toNat % 16)) = some b
    rw [hsum, UInt8.ofNat_toNat]
  rw [escape_eq, List.cons_append, List.cons_append, List.cons_append, List.nil_append, unescape,
    hbyte]

theorem unescape_cons {c : CodePoint} (hc : c ≠ sign) (t : Text) :
    unescape (c :: t) = Encoding.encodeUtf8Point c ++ unescape t := by
  match t with
  | [] => rfl
  | [d] => rfl
  | d :: e :: t =>
    have hbyte : byte? c d e = none := if_neg hc
    rw [unescape, hbyte]

theorem unescape_append {s : Text} (hs : sign ∉ s) (t : Text) :
    unescape (s ++ t) = Encoding.encodeUtf8 s ++ unescape t := by
  induction s with
  | nil => rfl
  | cons c s ih =>
    rw [List.mem_cons, not_or] at hs
    rw [List.cons_append, unescape_cons (Ne.symm hs.1), ih hs.2, ← List.append_assoc]
    rfl

theorem unescape_flatMap_escape (b : Bytes) (t : Text) :
    unescape (b.flatMap escape ++ t) = b ++ unescape t := by
  induction b with
  | nil => rfl
  | cons a b ih =>
    rw [List.flatMap_cons, List.append_assoc, unescape_escape, ih, List.cons_append]

theorem unescape_encode {kept : CodePoint → Bool} (hkept : kept sign = false) (t : Text) :
    unescape (encode kept t) = Encoding.encodeUtf8 t := by
  induction t with
  | nil => rfl
  | cons c t ih =>
    have hcons : encode kept (c :: t) = encode kept [c] ++ encode kept t :=
      encode_append kept [c] t
    have hpoint : Encoding.encodeUtf8 (c :: t)
        = Encoding.encodeUtf8Point c ++ Encoding.encodeUtf8 t := rfl
    rw [hcons, hpoint, ← ih]
    unfold encode
    rw [List.flatMap_cons, List.flatMap_nil, List.append_nil]
    by_cases hc : kept c = true
    · have hne : c ≠ sign := by
        rintro rfl
        rw [hkept] at hc
        cases hc
      rw [if_pos hc, List.singleton_append, unescape_cons hne]
    · rw [if_neg hc, unescape_flatMap_escape]

/-- What was escaped after some text without escapes is read again. -/
theorem decode?_append_encode {s : Text} (hs : sign ∉ s) {kept : CodePoint → Bool}
    (hkept : kept sign = false) (t : Text) : decode? (s ++ encode kept t) = some (s ++ t) := by
  have hbytes : Encoding.encodeUtf8 s ++ Encoding.encodeUtf8 t = Encoding.encodeUtf8 (s ++ t) :=
    List.flatMap_append.symm
  unfold decode?
  rw [unescape_append hs, unescape_encode hkept, hbytes, Encoding.decodeUtf8_encodeUtf8]

/-- A text without escapes is read as it is. -/
theorem decode?_eq_self {t : Text} (ht : sign ∉ t) : decode? t = some t := by
  have hnothing : encode (fun _ => false) [] = [] := rfl
  have hread : decode? (t ++ encode (fun _ => false) []) = some (t ++ []) :=
    decode?_append_encode ht rfl []
  rw [hnothing, List.append_nil] at hread
  exact hread

/-! ## Lengths -/

theorem length_le_flatMap {α β : Type} {f : α → List β} (hf : ∀ a, 0 < (f a).length)
    (t : List α) : t.length ≤ (t.flatMap f).length := by
  induction t with
  | nil => exact Nat.le_refl 0
  | cons a t ih =>
    have ha := hf a
    rw [List.flatMap_cons, List.length_append, List.length_cons]
    omega

theorem length_encodeUtf8Point_pos (c : CodePoint) :
    0 < (Encoding.encodeUtf8Point c).length := by
  unfold Encoding.encodeUtf8Point
  simp only
  split
  · exact Nat.one_pos
  split
  · exact Nat.two_pos
  split
  · exact Nat.succ_pos 2
  · exact Nat.succ_pos 3

theorem length_le_encodeUtf8 (t : Text) : t.length ≤ (Encoding.encodeUtf8 t).length :=
  length_le_flatMap length_encodeUtf8Point_pos t

theorem length_le_encode (kept : CodePoint → Bool) (t : Text) :
    t.length ≤ (encode kept t).length := by
  apply length_le_flatMap
  intro c
  split
  · exact Nat.one_pos
  · have hbytes := length_encodeUtf8Point_pos c
    have hescapes := length_le_flatMap (f := escape) (fun _ => Nat.succ_pos 2)
      (Encoding.encodeUtf8Point c)
    omega

end ShareVault.Percent
