import ShareVault.Text.Digits
import ShareVault.Text.Encoding

/-! # Percent escapes

    An address shows only some code points of ASCII as they are. Of all else it has
    the bytes, each as a percent sign and two hexadecimal digits in capitals.

    Main statements:
    - `encode_append`: texts are encoded part by part;
    - `encode_eq_self`: what is kept stays.
-/

namespace ShareVault.Percent

/-- The escape of a byte. -/
def escape (b : UInt8) : Text :=
  CodePoint.ofChar '%' :: (Text.hex 2 b.toNat).map fun d =>
    if d.isLower then CodePoint.ofNat (d.val - 0x20) else d

/-- The text with escapes for all code points that are not kept. -/
def encode (kept : CodePoint → Bool) (t : Text) : Text :=
  t.flatMap fun c => if kept c then [c] else (Encoding.encodeUtf8Point c).flatMap escape

/-- The code points that mean nothing special in any part of an address. -/
def isUnreserved (c : CodePoint) : Bool :=
  c.isUpper || c.isLower || c.isDigit || c = CodePoint.ofChar '_' || c = CodePoint.ofChar '.'
    || c = CodePoint.ofChar '-' || c = CodePoint.ofChar '~'

theorem encode_append (kept : CodePoint → Bool) (s t : Text) :
    encode kept (s ++ t) = encode kept s ++ encode kept t := by
  simp [encode]

theorem encode_eq_self {kept : CodePoint → Bool} {t : Text} (h : ∀ c ∈ t, kept c = true) :
    encode kept t = t := by
  induction t with
  | nil => rfl
  | cons c t ih =>
    have hc := h c (List.mem_cons_self ..)
    have ht := ih fun d hd => h d (List.mem_cons_of_mem c hd)
    simp only [encode, List.flatMap_cons, hc, if_true, List.cons_append, List.nil_append] at ht ⊢
    rw [ht]

end ShareVault.Percent
