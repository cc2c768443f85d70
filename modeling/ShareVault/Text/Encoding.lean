import ShareVault.Text.Basic

/-! # Unicode encodings

    Texts from bytes in UTF-8, UTF-16 and UTF-32, and bytes from texts in
    UTF-8. The decoders keep a surrogate that is written on its own, and the
    encoder writes one, so bytes survive the way through a text.

    `decodeText` also finds out which encoding is used: a byte order mark
    decides, else the places of the zero bytes among the first four, as every
    JSON text starts with ASCII code points.

    Main statement: `decodeUtf8_encodeUtf8`, decoding undoes encoding.
-/

namespace ShareVault.Encoding

/-! ## UTF-8 -/

/-- A byte that continues a code point. -/
def isContinuation (b : UInt8) : Bool := 0x80 ≤ b && b ≤ 0xBF

/-- The six bits that a continuation byte carries. -/
def payload (b : UInt8) : Nat := b.toNat - 0x80

/-- The text written in UTF-8, unless a byte is out of place or a code point
    is written with more bytes than it needs. -/
def decodeUtf8 : Bytes → Option Text
  | [] => some []
  | a :: t =>
    if a < 0x80 then (CodePoint.ofNat a.toNat :: ·) <$> decodeUtf8 t
    else if a < 0xC2 then none
    else if a < 0xE0 then
      match t with
      | b :: t =>
        if isContinuation b then
          (CodePoint.ofNat ((a.toNat - 0xC0) * 0x40 + payload b) :: ·) <$> decodeUtf8 t
        else none
      | _ => none
    else if a < 0xF0 then
      match t with
      | b :: c :: t =>
        let n := (a.toNat - 0xE0) * 0x1000 + payload b * 0x40 + payload c
        if isContinuation b && isContinuation c && 0x800 ≤ n then
          (CodePoint.ofNat n :: ·) <$> decodeUtf8 t
        else none
      | _ => none
    else if a < 0xF5 then
      match t with
      | b :: c :: d :: t =>
        let n := (a.toNat - 0xF0) * 0x40000 + payload b * 0x1000 + payload c * 0x40 + payload d
        if isContinuation b && isContinuation c && isContinuation d
            && 0x10000 ≤ n && n < 0x110000 then
          (CodePoint.ofNat n :: ·) <$> decodeUtf8 t
        else none
      | _ => none
    else none

/-- The bytes of one code point. -/
def encodeUtf8Point (c : CodePoint) : Bytes :=
  let n := c.val
  if n < 0x80 then [UInt8.ofNat n]
  else if n < 0x800 then
    [UInt8.ofNat (0xC0 + n / 0x40), UInt8.ofNat (0x80 + n % 0x40)]
  else if n < 0x10000 then
    [UInt8.ofNat (0xE0 + n / 0x1000), UInt8.ofNat (0x80 + n / 0x40 % 0x40),
      UInt8.ofNat (0x80 + n % 0x40)]
  else
    [UInt8.ofNat (0xF0 + n / 0x40000), UInt8.ofNat (0x80 + n / 0x1000 % 0x40),
      UInt8.ofNat (0x80 + n / 0x40 % 0x40), UInt8.ofNat (0x80 + n % 0x40)]

/-- The bytes of a text. -/
def encodeUtf8 (t : Text) : Bytes := t.flatMap encodeUtf8Point

/-! ## UTF-16 and UTF-32 -/

/-- The order of the bytes within a unit. -/
inductive ByteOrder where
  | big
  | little
deriving DecidableEq, Repr

/-- The number written by two bytes. -/
def ByteOrder.unit2 (o : ByteOrder) (a b : UInt8) : Nat :=
  match o with
  | .big => a.toNat * 0x100 + b.toNat
  | .little => b.toNat * 0x100 + a.toNat

/-- The number written by four bytes. -/
def ByteOrder.unit4 (o : ByteOrder) (a b c d : UInt8) : Nat :=
  match o with
  | .big => o.unit2 a b * 0x10000 + o.unit2 c d
  | .little => o.unit2 c d * 0x10000 + o.unit2 a b

/-- The 16-bit units written by the bytes, unless one byte is left over. -/
def units16 (o : ByteOrder) : Bytes → Option Text
  | [] => some []
  | [_] => none
  | a :: b :: t => (CodePoint.ofNat (o.unit2 a b) :: ·) <$> units16 o t

/-- Joins each first surrogate half with a second half right after it. -/
def joinSurrogates : Text → Text
  | [] => []
  | [c] => [c]
  | c :: d :: t =>
    if c.isHighSurrogate && d.isLowSurrogate then CodePoint.join c d :: joinSurrogates t
    else c :: joinSurrogates (d :: t)

/-- The text written in UTF-16. -/
def decodeUtf16 (o : ByteOrder) (b : Bytes) : Option Text := joinSurrogates <$> units16 o b

/-- The text written in UTF-32. -/
def decodeUtf32 (o : ByteOrder) : Bytes → Option Text
  | [] => some []
  | a :: b :: c :: d :: t =>
    if o.unit4 a b c d < 0x110000 then
      (CodePoint.ofNat (o.unit4 a b c d) :: ·) <$> decodeUtf32 o t
    else none
  | _ => none

/-! ## Finding the encoding -/

/-- The text of the bytes, in the encoding that the first bytes give away. -/
def decodeText : Bytes → Option Text
  | 0x00 :: 0x00 :: 0xFE :: 0xFF :: t => decodeUtf32 .big t
  | 0xFF :: 0xFE :: 0x00 :: 0x00 :: t => decodeUtf32 .little t
  | 0xFE :: 0xFF :: t => decodeUtf16 .big t
  | 0xFF :: 0xFE :: t => decodeUtf16 .little t
  | 0xEF :: 0xBB :: 0xBF :: t => decodeUtf8 t
  | bytes =>
    -- Without a mark, the zero bytes among the first four tell: a JSON text
    -- starts with ASCII.
    match bytes with
    | [a, b] =>
      if a = 0 then decodeUtf16 .big bytes
      else if b = 0 then decodeUtf16 .little bytes
      else decodeUtf8 bytes
    | a :: b :: c :: d :: _ =>
      if a = 0 then
        if b = 0 then decodeUtf32 .big bytes else decodeUtf16 .big bytes
      else if b = 0 then
        if c = 0 && d = 0 then decodeUtf32 .little bytes else decodeUtf16 .little bytes
      else decodeUtf8 bytes
    | _ => decodeUtf8 bytes

/-! ## Decoding undoes encoding -/

theorem toNat_ofNat_of_lt {n : Nat} (h : n < 256) : (UInt8.ofNat n).toNat = n :=
  UInt8.toNat_ofNat_of_lt' h

theorem isContinuation_ofNat {n : Nat} (h : n < 0x40) :
    isContinuation (UInt8.ofNat (0x80 + n)) = true := by
  have := toNat_ofNat_of_lt (n := 0x80 + n) (by omega)
  simp only [isContinuation, Bool.and_eq_true, decide_eq_true_eq, UInt8.le_iff_toNat_le, this]
  exact ⟨Nat.le_add_right 0x80 n, by show 0x80 + n ≤ 0xBF; omega⟩

theorem payload_ofNat {n : Nat} (h : n < 0x40) : payload (UInt8.ofNat (0x80 + n)) = n := by
  have hn := toNat_ofNat_of_lt (n := 0x80 + n) (by omega)
  unfold payload
  omega

theorem ofNat_eq_self (c : CodePoint) {n : Nat} (h : n = c.val) : CodePoint.ofNat n = c := by
  subst h
  exact Fin.ext (Nat.mod_eq_of_lt c.isLt)

theorem decodeUtf8_encodeUtf8Point (c : CodePoint) (rest : Bytes) :
    decodeUtf8 (encodeUtf8Point c ++ rest) = (c :: ·) <$> decodeUtf8 rest := by
  have hc : c.val < 0x110000 := c.isLt
  unfold encodeUtf8Point
  simp only
  split
  -- One byte: the code point itself.
  · next h =>
    have hn := toNat_ofNat_of_lt (n := c.val) (by omega)
    have h1 : UInt8.ofNat c.val < 0x80 := by
      rw [UInt8.lt_iff_toNat_lt, hn]; exact h
    rw [decodeUtf8.eq_def]
    simp only [List.cons_append, List.nil_append, h1, if_true, hn,
      ofNat_eq_self c rfl]
  split
  -- Two bytes: six bits go to the continuation.
  · next h1 h2 =>
    have hn := toNat_ofNat_of_lt (n := 0xC0 + c.val / 0x40) (by omega)
    have e1 : ¬ UInt8.ofNat (0xC0 + c.val / 0x40) < 0x80 := by
      rw [UInt8.lt_iff_toNat_lt, hn]; show ¬ _ < 0x80; omega
    have e2 : ¬ UInt8.ofNat (0xC0 + c.val / 0x40) < 0xC2 := by
      rw [UInt8.lt_iff_toNat_lt, hn]; show ¬ _ < 0xC2; omega
    have e3 : UInt8.ofNat (0xC0 + c.val / 0x40) < 0xE0 := by
      rw [UInt8.lt_iff_toNat_lt, hn]; show _ < 0xE0; omega
    rw [decodeUtf8.eq_def]
    simp only [List.cons_append, List.nil_append, e1, e2, e3, if_true, if_false,
      isContinuation_ofNat (show c.val % 0x40 < 0x40 by omega),
      payload_ofNat (show c.val % 0x40 < 0x40 by omega), hn]
    rw [ofNat_eq_self c (by omega)]
  split
  -- Three bytes: the parts of the code point add up again.
  · next h1 h2 h3 =>
    have hn := toNat_ofNat_of_lt (n := 0xE0 + c.val / 0x1000) (by omega)
    have e1 : ¬ UInt8.ofNat (0xE0 + c.val / 0x1000) < 0x80 := by
      rw [UInt8.lt_iff_toNat_lt, hn]; show ¬ _ < 0x80; omega
    have e2 : ¬ UInt8.ofNat (0xE0 + c.val / 0x1000) < 0xC2 := by
      rw [UInt8.lt_iff_toNat_lt, hn]; show ¬ _ < 0xC2; omega
    have e3 : ¬ UInt8.ofNat (0xE0 + c.val / 0x1000) < 0xE0 := by
      rw [UInt8.lt_iff_toNat_lt, hn]; show ¬ _ < 0xE0; omega
    have e4 : UInt8.ofNat (0xE0 + c.val / 0x1000) < 0xF0 := by
      rw [UInt8.lt_iff_toNat_lt, hn]; show _ < 0xF0; omega
    have hv : (0xE0 + c.val / 0x1000 - 0xE0) * 0x1000 + c.val / 0x40 % 0x40 * 0x40
        + c.val % 0x40 = c.val := by omega
    have hle : 0x800 ≤ c.val := by omega
    rw [decodeUtf8.eq_def]
    simp only [List.cons_append, List.nil_append, e1, e2, e3, e4, if_true, if_false,
      isContinuation_ofNat (show c.val % 0x40 < 0x40 by omega),
      isContinuation_ofNat (show c.val / 0x40 % 0x40 < 0x40 by omega),
      payload_ofNat (show c.val % 0x40 < 0x40 by omega),
      payload_ofNat (show c.val / 0x40 % 0x40 < 0x40 by omega), hn, hv, hle,
      decide_true, Bool.and_self, ofNat_eq_self c rfl]
  -- Four bytes: the same with one part more.
  · next h1 h2 h3 =>
    have hn := toNat_ofNat_of_lt (n := 0xF0 + c.val / 0x40000) (by omega)
    have e1 : ¬ UInt8.ofNat (0xF0 + c.val / 0x40000) < 0x80 := by
      rw [UInt8.lt_iff_toNat_lt, hn]; show ¬ _ < 0x80; omega
    have e2 : ¬ UInt8.ofNat (0xF0 + c.val / 0x40000) < 0xC2 := by
      rw [UInt8.lt_iff_toNat_lt, hn]; show ¬ _ < 0xC2; omega
    have e3 : ¬ UInt8.ofNat (0xF0 + c.val / 0x40000) < 0xE0 := by
      rw [UInt8.lt_iff_toNat_lt, hn]; show ¬ _ < 0xE0; omega
    have e4 : ¬ UInt8.ofNat (0xF0 + c.val / 0x40000) < 0xF0 := by
      rw [UInt8.lt_iff_toNat_lt, hn]; show ¬ _ < 0xF0; omega
    have e5 : UInt8.ofNat (0xF0 + c.val / 0x40000) < 0xF5 := by
      rw [UInt8.lt_iff_toNat_lt, hn]; show _ < 0xF5; omega
    have hv : (0xF0 + c.val / 0x40000 - 0xF0) * 0x40000 + c.val / 0x1000 % 0x40 * 0x1000
        + c.val / 0x40 % 0x40 * 0x40 + c.val % 0x40 = c.val := by omega
    have hle : 0x10000 ≤ c.val := by omega
    rw [decodeUtf8.eq_def]
    simp only [List.cons_append, List.nil_append, e1, e2, e3, e4, e5, if_true,
      if_false, isContinuation_ofNat (show c.val % 0x40 < 0x40 by omega),
      isContinuation_ofNat (show c.val / 0x40 % 0x40 < 0x40 by omega),
      isContinuation_ofNat (show c.val / 0x1000 % 0x40 < 0x40 by omega),
      payload_ofNat (show c.val % 0x40 < 0x40 by omega),
      payload_ofNat (show c.val / 0x40 % 0x40 < 0x40 by omega),
      payload_ofNat (show c.val / 0x1000 % 0x40 < 0x40 by omega), hn, hv, hle, hc,
      decide_true, Bool.and_self, ofNat_eq_self c rfl]

theorem decodeUtf8_encodeUtf8 (t : Text) : decodeUtf8 (encodeUtf8 t) = some t := by
  induction t with
  | nil => rfl
  | cons c t ih =>
    show decodeUtf8 (encodeUtf8Point c ++ encodeUtf8 t) = _
    rw [decodeUtf8_encodeUtf8Point, ih]
    rfl

end ShareVault.Encoding
