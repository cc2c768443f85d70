import ShareVault.Proofs.Message.Response
import ShareVault.Proofs.Text.Numeral

/-! # Wide integers

    A wide integer travels as a decimal numeral, so that nobody on the way rounds it. It
    is read from an integer or from any digit text that is not too long, zeros in front or
    not, and from nothing else: neither from a number that is no integer nor from a
    text with a sign, a blank, an underscore or a digit of another script. It is written as
    its numeral, which is read back as the same integer.

    Main statements:
    - `wide_eq_error`: what is refused, and why;
    - `dumpText?_wide`: the text of a wide integer;
    - `wide_decimal_exact`: exactly what is loaded, refused and dumped.
-/

namespace ShareVault

/-- Why a value is no wide integer of so many bits. -/
inductive WideRefused (bits : Nat) : Json → Problem → Prop where
  | null : WideRefused bits .null .notInteger
  | boolean (b : Bool) : WideRefused bits (.bool b) .booleanNumeral
  | float (x : Binary64) : WideRefused bits (.float x) .notInteger
  | array (items : List Json) : WideRefused bits (.array items) .notInteger
  | object (members : Members) : WideRefused bits (.object members) .notInteger
  /-- The text is empty, or something in it is no digit of ASCII. -/
  | notNumeral {t : Text} (h : t = [] ∨ ∃ c ∈ t, c.isDigit = false) :
    WideRefused bits (.text t) (.notNumeral t)
  | tooLong {t : Text} (hdigits : t.isDigits = true) (hlong : Json.maxDigits < t.length) :
    WideRefused bits (.text t) (.numeralTooLong t.length)
  | integer {n : Int} (hrange : n < 0 ∨ twoTo bits ≤ n) :
    WideRefused bits (.int n) (.outOfRange n bits)
  | numeral {t : Text} (hdigits : t.isDigits = true) (hlength : t.length ≤ Json.maxDigits)
      (hrange : twoTo bits ≤ t.digitsValue) :
    WideRefused bits (.text t) (.outOfRange (t.digitsValue : Nat) bits)

namespace Reader

variable {bits : Nat}

theorem not_isDigits_iff {t : Text} :
    t.isDigits = false ↔ t = [] ∨ ∃ c ∈ t, c.isDigit = false := by
  rw [← Bool.not_eq_true, Text.isDigits_iff, not_and_or, not_not]
  simp only [not_forall, Bool.not_eq_true, exists_prop]

theorem inRange_of_not {n : Int} (h : n < 0 ∨ twoTo bits ≤ n) :
    inRange bits n = Checked.fail (.outOfRange n bits) := by
  unfold inRange
  rw [if_neg (by omega)]

/-- What is refused for a reason is refused for it alone. -/
theorem wide_of_refused {v : Json} {p : Problem} (h : WideRefused bits v p) :
    wide bits v = Checked.fail p := by
  cases h with
  | null => rfl
  | boolean b => rfl
  | float x => rfl
  | array items => rfl
  | object members => rfl
  | @notNumeral t h =>
    show (if t.isDigits = true then _ else _) = _
    rw [not_isDigits_iff.mpr h]
    rfl
  | @tooLong t hdigits hlong =>
    show (if t.isDigits = true then _ else _) = _
    rw [if_pos hdigits, if_pos hlong]
  | integer hrange => exact inRange_of_not hrange
  | @numeral t hdigits hlength hrange =>
    show (if t.isDigits = true then _ else _) = _
    rw [if_pos hdigits, if_neg (Nat.not_lt.mpr hlength)]
    exact inRange_of_not (.inr (Int.ofNat_le.mpr hrange))

/-- A value is a wide integer, or there is a reason why it is none. -/
theorem wide_or_refused (bits : Nat) (v : Json) :
    (∃ n, WideWritten n v ∧ n < twoTo bits) ∨ ∃ p, WideRefused bits v p := by
  cases v with
  | null => exact .inr ⟨_, .null⟩
  | bool b => exact .inr ⟨_, .boolean b⟩
  | float x => exact .inr ⟨_, .float x⟩
  | array items => exact .inr ⟨_, .array items⟩
  | object members => exact .inr ⟨_, .object members⟩
  | int n =>
    by_cases hrange : n < 0 ∨ twoTo bits ≤ n
    · exact .inr ⟨_, .integer hrange⟩
    · obtain ⟨k, rfl⟩ := Int.eq_ofNat_of_zero_le (by omega : 0 ≤ n)
      exact .inl ⟨k, .integer, by omega⟩
  | text t =>
    by_cases hdigits : t.isDigits = true
    · by_cases hlength : t.length ≤ Json.maxDigits
      · by_cases hrange : t.digitsValue < twoTo bits
        · exact .inl ⟨_, .numeral t hdigits hlength rfl, hrange⟩
        · exact .inr ⟨_, .numeral hdigits hlength (Nat.not_lt.mp hrange)⟩
      · exact .inr ⟨_, .tooLong hdigits (Nat.not_le.mp hlength)⟩
    · exact .inr ⟨_, .notNumeral (not_isDigits_iff.mp (Bool.not_eq_true _ ▸ hdigits))⟩

/-- A value that is refused has one issue, and that gives the reason. -/
theorem wide_eq_error {v : Json} {issues : List Issue} :
    wide bits v = .error issues ↔ ∃ p, WideRefused bits v p ∧ issues = [Issue.here p] := by
  constructor
  · intro herror
    rcases wide_or_refused bits v with ⟨n, hwritten, hfits⟩ | ⟨p, hrefused⟩
    · rw [wide_eq_ok.mpr ⟨hwritten, hfits⟩] at herror
      cases herror
    · rw [wide_of_refused hrefused] at herror
      exact ⟨p, hrefused, (Except.error.inj herror).symm⟩
  · intro h
    obtain ⟨p, hrefused, rfl⟩ := h
    exact wide_of_refused hrefused

end Reader

namespace Shape

variable {bits : Nat}

/-- The text of a numeral as a value: the numeral between quotes. -/
def quotedNumeral (t : Text) : Text :=
  CodePoint.ofChar '"' :: t ++ [CodePoint.ofChar '"']

theorem plainPoint_digit : ∀ d, d < 10 →
    JsonStyle.plainPoint (CodePoint.digit d) = [CodePoint.digit d] := by
  decide

/-- Digits are written as they are. -/
theorem flatMap_plainPoint_of_isDigit {t : Text} (h : ∀ c ∈ t, c.isDigit = true) :
    t.flatMap JsonStyle.plainPoint = t := by
  induction t with
  | nil => rfl
  | cons c t ih =>
    obtain ⟨d, hd, -, rfl⟩ := CodePoint.exists_digit_eq (h c (List.mem_cons_self ..))
    rw [List.flatMap_cons, plainPoint_digit d hd, ih fun d hd => h d (List.mem_cons_of_mem _ hd)]
    rfl

/-- A wide integer is dumped as its numeral. -/
theorem dumpText?_wide (bits n : Nat) :
    (wide bits).dumpText? (.int n) = some (quotedNumeral (Text.decimal n)) := by
  have hdigits : ∀ c ∈ Text.decimal n, c.isDigit = true :=
    List.all_eq_true.mp (Text.decimal_all_isDigit n)
  have hwell : (Json.text (Text.decimal n)).isWellFormed = true := Text.isWellFormed_decimal n
  show (Json.text (Text.decimal n)).valueText? = _
  unfold Json.valueText?
  rw [if_pos hwell]
  show some (CodePoint.ofChar '"' :: (Text.decimal n).flatMap JsonStyle.plainPoint ++ _) = _
  rw [flatMap_plainPoint_of_isDigit hdigits]
  rfl

theorem load_wide_eq_error {origin : Origin} {v : Json} {issues : List Issue} :
    (wide bits).load origin v = .error issues
      ↔ ∃ p, WideRefused bits v p ∧ issues = [Issue.here p] :=
  Except.map_eq_error.trans Reader.wide_eq_error

theorem load_wide_eq_ok {origin : Origin} {v : Json} {x : Value} :
    (wide bits).load origin v = .ok x
      ↔ ∃ n : Nat, WideWritten n v ∧ n < twoTo bits ∧ x = .int n := by
  constructor
  · intro h
    obtain ⟨n, hn, hx⟩ := Except.map_eq_ok.mp h
    obtain ⟨hwritten, hfits⟩ := Reader.wide_eq_ok.mp hn
    exact ⟨n, hwritten, hfits, hx.symm⟩
  · intro h
    obtain ⟨n, hwritten, hfits, hx⟩ := h
    exact Except.map_eq_ok.mpr ⟨n, Reader.wide_eq_ok.mpr ⟨hwritten, hfits⟩, hx.symm⟩

/-- A wide integer is loaded from an integer that fits and from a text of 1 to 4300 digits
    of ASCII that writes one, as the integer that is written. Everything else is refused
    by one issue that says why. Each integer that fits is dumped as its numeral between
    quotes, and loaded from the numeral again; so what a digit text is dumped as after it
    was loaded is the text without the zeros in front, of which one stays for zero. -/
theorem wide_decimal_exact (hbits : bits < Json.maxDigits) (origin : Origin) :
    (∀ v x, (wide bits).load origin v = .ok x ↔
      ∃ n : Nat, x = .int n ∧ n < twoTo bits
        ∧ (v = .int n ∨ ∃ t : Text, v = .text t ∧ (1 ≤ t.length ∧ t.length ≤ 4300)
          ∧ (∀ c ∈ t, c.isDigit = true) ∧ t.digitsValue = n))
    ∧ (∀ v issues, (wide bits).load origin v = .error issues ↔
      ∃ p, WideRefused bits v p ∧ issues = [Issue.here p])
    ∧ (∀ n : Nat, n < twoTo bits → ∃ t, Text.IsNumeral n t
        ∧ (wide bits).dumpText? (.int n) = some (quotedNumeral t)
        ∧ (wide bits).load origin (.text t) = .ok (.int n))
    ∧ ∀ (t : Text) x, (wide bits).load origin (.text t) = .ok x →
        (wide bits).dumpText? x = some (quotedNumeral t.withoutLeadingZeros) := by
  refine ⟨?_, fun v issues => load_wide_eq_error, ?_, ?_⟩
  · intro v x
    rw [load_wide_eq_ok]
    apply exists_congr
    intro n
    constructor
    · intro h
      obtain ⟨hwritten, hfits, hx⟩ := h
      refine ⟨hx, hfits, ?_⟩
      cases hwritten with
      | integer => exact .inl rfl
      | numeral t hdigits hlength hvalue =>
        obtain ⟨hne, hall⟩ := Text.isDigits_iff.mp hdigits
        exact .inr ⟨t, rfl, ⟨List.length_pos_of_ne_nil hne, hlength⟩, hall, hvalue⟩
    · intro h
      obtain ⟨hx, hfits, rfl | ⟨t, rfl, ⟨hpos, hlength⟩, hall, hvalue⟩⟩ := h
      · exact ⟨.integer, hfits, hx⟩
      · have hdigits := Text.isDigits_iff.mpr ⟨List.ne_nil_of_length_pos hpos, hall⟩
        exact ⟨.numeral t hdigits hlength hvalue, hfits, hx⟩
  · intro n hfits
    exact ⟨Text.decimal n, Text.isNumeral_decimal n, dumpText?_wide bits n,
      load_wide_eq_ok.mpr ⟨n, .decimal hbits hfits, hfits, rfl⟩⟩
  · intro t x hload
    obtain ⟨n, hwritten, -, rfl⟩ := load_wide_eq_ok.mp hload
    cases hwritten with
    | numeral _ hdigits _ hvalue =>
      rw [dumpText?_wide, ← hvalue, (Text.isNumeral_withoutLeadingZeros hdigits).eq_decimal]

/-- Zeros in front are dropped, the greatest integer of 128 bits is loaded and the next
    one is not, and of 64 bits neither is a text with a sign. -/
theorem wide_decimal_exact_amounts :
    (128 < Json.maxDigits ∧ 64 < Json.maxDigits)
    ∧ (wide 128).load .value (.text "007") = .ok (.int 7)
    ∧ (wide 128).dumpText? (.int 7) = some (quotedNumeral "7")
    ∧ (wide 128).load .value (.int (twoTo 128 - 1)) = .ok (.int (twoTo 128 - 1))
    ∧ (wide 128).load .value (.int (twoTo 128)) = .error [.here (.outOfRange (twoTo 128) 128)]
    ∧ (wide 64).load .value (.text "00") = .ok (.int 0)
    ∧ (wide 64).dumpText? (.int 0) = some (quotedNumeral "0")
    ∧ (wide 64).load .value (.text "+5") = .error [.here (.notNumeral "+5")]
    ∧ ∃ t, Text.IsNumeral (twoTo 64 - 1) t
      ∧ (wide 64).load .value (.text t) = .ok (.int (twoTo 64 - 1 : Nat)) := by
  have hamount : 128 < Json.maxDigits := by decide
  have hword : 64 < Json.maxDigits := by decide
  obtain ⟨hloads, hrefuses, -, hstrips⟩ := wide_decimal_exact hamount .value
  obtain ⟨hloads', hrefuses', hdumps', hstrips'⟩ := wide_decimal_exact hword .value
  have hseven : (wide 128).load .value (.text "007") = .ok (.int 7) :=
    (hloads _ _).mpr ⟨7, rfl, by decide,
      .inr ⟨_, rfl, by decide, List.all_eq_true.mp (by decide), by decide⟩⟩
  have hnone : (wide 64).load .value (.text "00") = .ok (.int 0) :=
    (hloads' _ _).mpr ⟨0, rfl, by decide,
      .inr ⟨_, rfl, by decide, List.all_eq_true.mp (by decide), by decide⟩⟩
  have hgreatest : (twoTo 128 - 1 : Int) = ((twoTo 128 - 1 : Nat) : Int) := by decide
  obtain ⟨t, hnumeral, -, hback⟩ := hdumps' (twoTo 64 - 1) (by decide)
  refine ⟨⟨hamount, hword⟩, hseven, hstrips _ _ hseven, ?_, ?_, hnone, hstrips' _ _ hnone, ?_,
    t, hnumeral, hback⟩
  · rw [hgreatest]
    exact (hloads _ _).mpr ⟨twoTo 128 - 1, rfl, by decide, .inl rfl⟩
  · exact (hrefuses _ _).mpr ⟨_, .integer (.inr (by decide)), rfl⟩
  · have hsign : ∃ c ∈ Text.ofString "+5", c.isDigit = false :=
      ⟨CodePoint.ofChar '+', List.mem_cons_self .., by decide⟩
    exact (hrefuses' _ _).mpr ⟨_, .notNumeral (.inr hsign), rfl⟩

end Shape

end ShareVault
