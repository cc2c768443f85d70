import ShareVault.Json.Strict
import ShareVault.Proofs.Json.ValueText

/-! # What is written is strict

    Stored records are read by stricter rules than messages. The text of a value
    keeps them, as long as the value itself has no surrogate and is not nested too
    deep: what the text escapes is no surrogate, and each member is written once.

    Main statements:
    - `isWellFormed_write`: no surrogate comes in by writing;
    - `written?_write`: the members of the text are those of the value;
    - `parseStrictBytes?_write`: so the bytes are read as the value.
-/

namespace ShareVault.Json

open JsonStyle

/-! ## Surrogates -/

theorem isSurrogate_of_mem_plainPoint {c : CodePoint} (hc : c.isSurrogate = false) :
    ∀ d ∈ plainPoint c, d.isSurrogate = false := by
  intro d hd
  unfold plainPoint at hd
  split at hd
  · next escape hshort =>
    obtain ⟨-, e, rfl, -, -, he⟩ := Parser.escaped?_of_shortEscape? hshort
    simp only [List.mem_cons, List.not_mem_nil, or_false] at hd
    rcases hd with rfl | rfl
    · decide
    · exact isSurrogate_of_isPrintable he
  · split at hd
    · exact isSurrogate_of_isPrintable (isPrintable_of_mem_unitEscape d hd)
    -- The code point stands for itself.
    · rw [List.mem_singleton] at hd
      rw [hd]
      exact hc

/-- The text of a value without surrogates has none. -/
theorem isWellFormed_write {v : Json} (hplain : v.IsPlain) (hv : v.isWellFormed = true) :
    (v.write .value).isWellFormed = true := by
  have hshown : v.AllTexts (ShownAs .value fun d => d.isSurrogate = false) := by
    refine (isWellFormed_iff_allTexts.mp hv).imp ?_
    intro t ht c hc
    have hpoint := List.all_eq_true.mp ht c hc
    rw [Bool.not_eq_true'] at hpoint
    exact isSurrogate_of_mem_plainPoint hpoint
  have hall := forall_mem_write_of_allTexts (fun _ => isSurrogate_of_isPrintable) hplain hshown
  unfold Text.isWellFormed
  rw [List.all_eq_true]
  intro d hd
  rw [hall d hd]
  rfl

/-! ## Members -/

/-- A member goes after those before it, whatever its key. -/
def putLast : Parser.Collect := fun key v before => before ++ [(key, v)]

mutual

/-- A value whose members are collected one after the other is as before. -/
theorem reread_putLast : ∀ v : Json, v.reread putLast id = v
  | .array items => by
    unfold reread
    rw [rereadItems_putLast items]
  | .object members => by
    unfold reread
    rw [rereadMembers_putLast [] members, List.nil_append]
  | .null | .bool _ | .int _ | .float _ | .text _ => rfl

theorem rereadItems_putLast : ∀ vs : List Json, rereadItems putLast id vs = vs
  | [] => rfl
  | v :: rest => by
    unfold rereadItems
    rw [reread_putLast v, rereadItems_putLast rest]

theorem rereadMembers_putLast (before : Members) :
    ∀ ms : List (Text × Json), rereadMembers putLast id before ms = before ++ ms
  | [] => (List.append_nil before).symm
  | (k, v) :: rest => by
    unfold rereadMembers
    rw [rereadMembers_putLast _ rest, reread_putLast v]
    exact List.append_assoc ..

end

/-- The text of a value writes the members that the value has. -/
theorem written?_write {v : Json} (hv : v.IsPlain) : written? (v.write .value) = some v := by
  show (Parser.document putLast .unlimited (v.write .value)).toOption = some v
  rw [Parser.document_write Parser.readsAs_value hv, reread_putLast]
  rfl

/-! ## Strict texts -/

/-- A value begins with ASCII and so with no mark. -/
theorem parse_write {v : Json} (hv : v.IsPlain) : parse .unlimited (v.write .value) = .ok v := by
  have hread := parseText_valueText hv
  obtain ⟨c, t, heq, -, -, hc⟩ := Parser.exists_write_eq_cons .value hv
  have hmark : c.val ≠ 0xFEFF := by omega
  rw [heq] at hread ⊢
  show (if c.val = 0xFEFF then _ else parseText .unlimited (c :: t)) = .ok v
  rw [if_neg hmark, hread]

/-- The bytes of a value are read by the strict rules as the value. -/
theorem parseStrictBytes?_write {v : Json} (hplain : v.IsPlain) (hv : v.isWellFormed = true)
    (hdepth : v.depth ≤ maxDepth) :
    parseStrictBytes? (Encoding.encodeUtf8 (v.write .value)) = some v := by
  have hstrict : isStrict (v.write .value) = true := by
    unfold isStrict
    simp only [isWellFormed_write hplain hv, written?_write hplain, hv, hdepth, decide_true,
      Bool.and_self]
  unfold parseStrictBytes?
  rw [Encoding.decodeUtf8_encodeUtf8, Option.bind_some]
  unfold parseStrict?
  rw [if_pos hstrict, parse_write hplain]
  rfl

end ShareVault.Json
