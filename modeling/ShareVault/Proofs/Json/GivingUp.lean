import ShareVault.Proofs.Json.RoundTrip
import ShareVault.Proofs.Wire.Reader
import Mathlib.Data.List.Infix
import Mathlib.Data.List.TakeWhile

/-! # Where a reader gives up

    A JSON text that breaks the grammar is reported at its place. Two things make a
    reader give up without a report: an integer with more digits than are converted,
    and an array or an object that there is no room for. Here it is shown that the text
    then has such an integer, or more opening brackets than there is room for.

    Every part of the reader leaves an end of what it was given, so that a numeral in
    what is left is one in the whole text. Brackets are counted from the inside out: one
    more level of room for each bracket that was read on the way.

    Main statements:
    - `follows_value`: the rest after a value is an end of the text before it, and
      where reading gives up there is a long numeral or too much nesting;
    - `hasLongNumeral_of_parseText`, `exceededBy_of_parseText`: so it is for whole texts.
-/

namespace ShareVault.Json

/-! ## Opening brackets -/

/-- A bracket or a brace that opens an array or an object. -/
def isOpening (c : CodePoint) : Bool := c = Parser.lit '[' || c.val = 0x7B

/-- How many opening brackets and braces a text has, those in quoted texts included. -/
def openings (t : Text) : Nat := t.countP isOpening

theorem openings_le_of_suffix {u t : Text} (h : u <:+ t) : openings u ≤ openings t :=
  h.sublist.countP_le

/-- The text has more opening brackets than there is room for. -/
def Room.ExceededBy (room : Room) (t : Text) : Prop := ∃ n, room = .levels n ∧ n < openings t

theorem Room.ExceededBy.of_suffix {room : Room} {u t : Text} (h : room.ExceededBy u)
    (hu : u <:+ t) : room.ExceededBy t := by
  obtain ⟨n, hroom, hn⟩ := h
  exact ⟨n, hroom, hn.trans_le (openings_le_of_suffix hu)⟩

/-- An opening bracket that does not fit is one too many. -/
theorem Room.exceededBy_of_inside?_eq_none {room : Room} (hroom : room.inside? = none)
    {c : CodePoint} (hc : isOpening c = true) (u : Text) : room.ExceededBy (c :: u) := by
  cases room with
  | unlimited => cases hroom
  | levels n =>
    cases n with
    | succ n => cases hroom
    | zero =>
      refine ⟨0, rfl, ?_⟩
      unfold openings
      rw [List.countP_cons_of_pos hc]
      exact Nat.succ_pos _

/-- What is too much inside an array or an object is too much with it. -/
theorem Room.ExceededBy.of_inside {room inside : Room} (hroom : room.inside? = some inside)
    {c : CodePoint} (hc : isOpening c = true) {u : Text} (h : inside.ExceededBy u) :
    room.ExceededBy (c :: u) := by
  obtain ⟨n, rfl, hn⟩ := h
  cases room with
  | unlimited => cases hroom
  | levels m =>
    cases m with
    | zero => cases hroom
    | succ m =>
      cases hroom
      refine ⟨n + 1, rfl, ?_⟩
      unfold openings at hn ⊢
      rw [List.countP_cons_of_pos hc]
      exact Nat.succ_lt_succ hn

namespace Parser

/-! ## What is left -/

/-- A text with the digits of an integer, more of them than are converted. -/
def HasLongNumeral (t : Text) : Prop :=
  ∃ before digits after, t = before ++ digits ++ after
    ∧ Json.maxDigits < digits.length ∧ (∀ d ∈ digits, d.isDigit = true)
    ∧ fraction? after = none ∧ exponent? after = none

theorem HasLongNumeral.of_suffix {u t : Text} (h : HasLongNumeral u) (hu : u <:+ t) :
    HasLongNumeral t := by
  obtain ⟨front, rfl⟩ := hu
  obtain ⟨before, digits, after, rfl, hdigits⟩ := h
  exact ⟨front ++ before, digits, after, by simp, hdigits⟩

/-- What was read leaves an end of the text, and where reading gives up, the text has a
    long numeral or more opening brackets than there is room for. -/
def Follows {α : Type} (room : Room) (t : Text) : Parsed α → Prop
  | .ok (_, rest) => rest <:+ t
  | .error .numeralTooLong => HasLongNumeral t
  | .error .tooDeep => room.ExceededBy t
  | .error (.problem _ _) => True

theorem Follows.of_suffix {α : Type} {room : Room} {u t : Text} {p : Parsed α}
    (h : Follows room u p) (hu : u <:+ t) : Follows room t p := by
  match p, h with
  | .ok (_, rest), h => exact h.trans hu
  | .error .numeralTooLong, h => exact HasLongNumeral.of_suffix h hu
  | .error .tooDeep, h => exact Room.ExceededBy.of_suffix h hu
  | .error (.problem _ _), _ => trivial

/-- What follows inside an array or an object follows with its bracket in front. -/
theorem Follows.of_inside {α : Type} {room inside : Room} (hroom : room.inside? = some inside)
    {c : CodePoint} (hc : isOpening c = true) {u : Text} {p : Parsed α}
    (h : Follows inside u p) : Follows room (c :: u) p := by
  have hu : u <:+ c :: u := List.suffix_cons c u
  match p, h with
  | .ok (_, rest), h => exact h.trans hu
  | .error .numeralTooLong, h => exact HasLongNumeral.of_suffix h hu
  | .error .tooDeep, h => exact Room.ExceededBy.of_inside hroom hc h
  | .error (.problem _ _), _ => trivial

/-! ## Blanks, texts and words -/

theorem skipBlanks_suffix (t : Text) : skipBlanks t <:+ t := List.dropWhile_suffix _

theorem follows_literalText (room : Room) (opening : Nat) (acc : Text) (afterHigh : Bool)
    (t : Text) : Follows room t (literalText opening acc afterHigh t) := by
  fun_induction literalText opening acc afterHigh t with
  | case1 => trivial
  | case2 acc afterHigh t => exact List.suffix_cons _ _
  | case3 => trivial
  -- An escape of four digits, and what is after it.
  | case4 acc afterHigh h1 h2 h3 h4 n c rest hn point hquote ih =>
    apply ih.of_suffix
    exact ⟨[lit '\\', lit 'u', h1, h2, h3, h4], rfl⟩
  | case5 => trivial
  | case6 => trivial
  | case7 acc afterHigh e t hu point hpoint hquote ih =>
    apply ih.of_suffix
    exact ⟨[lit '\\', e], rfl⟩
  | case8 => trivial
  | case9 => trivial
  | case10 acc afterHigh c t hquote hslash hcontrol ih => exact ih.of_suffix (List.suffix_cons _ _)

theorem suffix_of_word? {t rest : Text} {v : Json} (h : word? t = some (v, rest)) : rest <:+ t := by
  obtain ⟨⟨w, x⟩, -, hw⟩ := List.exists_of_findSome?_eq_some h
  simp only at hw
  split at hw
  · obtain rfl : t.drop w.length = rest := congrArg Prod.snd (Option.some.inj hw)
    exact List.drop_suffix _ _
  · cases hw

/-! ## Numbers -/

theorem digits_suffix (t : Text) : (digits t).2 <:+ t := List.dropWhile_suffix _

theorem fraction?_suffix {t ds rest : Text} (h : fraction? t = some (ds, rest)) : rest <:+ t := by
  unfold fraction? at h
  split at h
  · next c d u =>
    split at h
    · obtain rfl : (digits (d :: u)).2 = rest := congrArg Prod.snd (Option.some.inj h)
      exact (digits_suffix _).trans (List.suffix_cons _ _)
    · cases h
  · cases h

theorem unsigned_suffix (t : Text) :
    (match t with
      | s :: u => if s = lit '-' then (true, u) else if s = lit '+' then (false, u) else (false, t)
      | [] => (false, t) : Bool × Text).2 <:+ t := by
  split
  · next s u =>
    split
    · exact List.suffix_cons s u
    · split
      · exact List.suffix_cons s u
      · exact List.suffix_rfl
  · exact List.suffix_rfl

theorem exponent?_suffix {t rest : Text} {n : Int} (h : exponent? t = some (n, rest)) :
    rest <:+ t := by
  unfold exponent? at h
  split at h
  · next c u =>
    split at h
    · simp only at h
      -- A sign may be between the letter and the digits.
      split at h
      · cases h
      · next ds after _ hdigits =>
        obtain rfl : after = rest := congrArg Prod.snd (Option.some.inj h)
        rw [← show _ = after from congrArg Prod.snd hdigits]
        exact ((digits_suffix _).trans (unsigned_suffix u)).trans (List.suffix_cons c u)
    · cases h
  · cases h

theorem wholeDigits?_eq {t ds rest : Text} (h : wholeDigits? t = some (ds, rest)) :
    t = ds ++ rest ∧ ∀ d ∈ ds, d.isDigit = true := by
  unfold wholeDigits? at h
  split at h
  · next c u =>
    split at h
    · next hc =>
      cases h
      refine ⟨rfl, ?_⟩
      intro d hd
      obtain rfl := List.mem_singleton.mp hd
      rw [hc]
      decide
    · split at h
      · next hzero hc =>
        cases h
        refine ⟨List.takeWhile_append_dropWhile.symm, ?_⟩
        intro d hd
        exact List.mem_takeWhile_imp hd
      · cases h
  · cases h

/-- A numeral is an integer, with all its digits in front of the rest, or it goes on
    with a fraction or an exponent. -/
theorem follows_unsignedNumber (room : Room) (negative : Bool) {whole rest : Text}
    (hwhole : ∀ d ∈ whole, d.isDigit = true) :
    Follows room (whole ++ rest) (unsignedNumber negative whole rest) := by
  have hrest : rest <:+ whole ++ rest := List.suffix_append whole rest
  unfold unsignedNumber
  cases hfraction : fraction? rest with
  | none =>
    cases hexponent : exponent? rest with
    | none =>
      by_cases hlong : Json.maxDigits < whole.length
      · simp only [hexponent, if_pos hlong]
        exact ⟨[], whole, rest, rfl, hlong, hwhole, hfraction, hexponent⟩
      · simp only [hexponent, if_neg hlong]
        exact hrest
    | some p =>
      simp only [hexponent]
      exact (exponent?_suffix hexponent).trans hrest
  | some p =>
    obtain ⟨places, after⟩ := p
    have hafter := (fraction?_suffix hfraction).trans hrest
    cases hexponent : exponent? after with
    | none =>
      simp only [hexponent]
      exact hafter
    | some p =>
      simp only [hexponent]
      exact (exponent?_suffix hexponent).trans hafter

theorem follows_number (room : Room) (t : Text) : Follows room t (number t) := by
  have hbody : (match t with
      | c :: u => if c = lit '-' then (true, u) else (false, t)
      | [] => (false, t) : Bool × Text).2 <:+ t := by
    split
    · next c u =>
      split
      · exact List.suffix_cons c u
      · exact List.suffix_rfl
    · exact List.suffix_rfl
  unfold number
  simp only
  split
  · next whole rest hwhole =>
    obtain ⟨heq, hdigits⟩ := wholeDigits?_eq hwhole
    apply (follows_unsignedNumber room _ hdigits).of_suffix
    rw [← heq]
    exact hbody
  · trivial

/-! ## Values -/

/-- A part that gives up makes the whole give up. -/
theorem Follows.error {α β : Type} {room : Room} {u t : Text} {e : Stop} {p : Parsed α}
    (h : Follows room u p) (he : p = .error e) (hu : u <:+ t) :
    Follows room t (.error e : Parsed β) := by
  subst he
  have ht := h.of_suffix hu
  match e, ht with
  | .problem _ _, _ => trivial
  | .numeralTooLong, ht => exact ht
  | .tooDeep, ht => exact ht

theorem Follows.ok {α : Type} {room : Room} {u t rest : Text} {a : α} {p : Parsed α}
    (h : Follows room u p) (he : p = .ok (a, rest)) (hu : u <:+ t) : rest <:+ t := by
  subst he
  exact h.of_suffix hu

section Step

variable {collect : Collect} {fuel : Nat}

theorem follows_value_succ
    (hmembers : ∀ room before t, Follows room t (members collect room fuel before t))
    (helements : ∀ room before t, Follows room t (elements collect room fuel before t))
    (room : Room) (t : Text) : Follows room t (value collect room (fuel + 1) t) := by
  rw [value.eq_def]
  simp only
  split
  · trivial
  · next c u =>
    have hu : u <:+ c :: u := List.suffix_cons c u
    have hblanks := skipBlanks_suffix u
    split
    · have htext := follows_literalText room (c :: u).length [] false u
      split
      · next s rest hs => exact htext.ok hs hu
      · next e he => exact htext.error he hu
    split
    · next hbrace =>
      have hc : isOpening c = true := by simp [isOpening, hbrace]
      split
      · next hroom => exact Room.exceededBy_of_inside?_eq_none hroom hc u
      · next inside d rest hroom hd =>
        rw [hd] at hblanks
        split
        · exact ((List.suffix_cons d rest).trans hblanks).trans hu
        · exact ((hmembers inside [] (d :: rest)).of_suffix hblanks).of_inside hroom hc
      · trivial
    split
    · next hbracket =>
      have hc : isOpening c = true := by simp [isOpening, hbracket]
      split
      · next hroom => exact Room.exceededBy_of_inside?_eq_none hroom hc u
      · next inside d rest hroom hd =>
        rw [hd] at hblanks
        split
        · exact ((List.suffix_cons d rest).trans hblanks).trans hu
        · exact ((helements inside [] (d :: rest)).of_suffix hblanks).of_inside hroom hc
      · trivial
    split
    · next v rest hword => exact suffix_of_word? hword
    · exact follows_number room _

theorem follows_members_succ {room : Room}
    (hvalue : ∀ t, Follows room t (value collect room fuel t))
    (hmembers : ∀ before t, Follows room t (members collect room fuel before t))
    (before : Members) (t : Text) : Follows room t (members collect room (fuel + 1) before t) := by
  rw [members.eq_def]
  simp only
  split
  · trivial
  · next c u =>
    split
    · have htext := follows_literalText room (c :: u).length [] false u
      split
      · next e he => exact htext.error he (List.suffix_cons c u)
      · next key afterKey hkey =>
        have hkeyRest := (skipBlanks_suffix afterKey).trans (htext.ok hkey (List.suffix_cons c u))
        split
        · trivial
        · next d afterColon hd =>
          rw [hd] at hkeyRest
          have hcolon := (skipBlanks_suffix afterColon).trans
            ((List.suffix_cons d afterColon).trans hkeyRest)
          split
          · split
            · next e he => exact (hvalue _).error he hcolon
            · next v afterValue hv =>
              have hvalueRest := (skipBlanks_suffix afterValue).trans ((hvalue _).ok hv hcolon)
              split
              · trivial
              · next e rest he =>
                rw [he] at hvalueRest
                have htail := (List.suffix_cons e rest).trans hvalueRest
                split
                · exact htail
                split
                · exact (hmembers _ _).of_suffix ((skipBlanks_suffix rest).trans htail)
                · trivial
          · trivial
    · trivial

theorem follows_elements_succ {room : Room}
    (hvalue : ∀ t, Follows room t (value collect room fuel t))
    (helements : ∀ before t, Follows room t (elements collect room fuel before t))
    (before : List Json) (t : Text) :
    Follows room t (elements collect room (fuel + 1) before t) := by
  rw [elements.eq_def]
  simp only
  split
  · next e he => exact (hvalue t).error he List.suffix_rfl
  · next v afterValue hv =>
    have hrest := (skipBlanks_suffix afterValue).trans ((hvalue t).ok hv List.suffix_rfl)
    split
    · trivial
    · next e rest he =>
      rw [he] at hrest
      have htail := (List.suffix_cons e rest).trans hrest
      split
      · exact htail
      split
      · exact (helements _ _).of_suffix ((skipBlanks_suffix rest).trans htail)
      · trivial

end Step

/-- All parts of the reader leave ends of the text, and give up only for long numerals and
    for brackets that there is no room for. -/
theorem follows_reader (collect : Collect) (fuel : Nat) :
    (∀ room t, Follows room t (value collect room fuel t))
      ∧ (∀ room before t, Follows room t (members collect room fuel before t))
      ∧ ∀ room before t, Follows room t (elements collect room fuel before t) := by
  induction fuel with
  | zero =>
    refine ⟨?_, ?_, ?_⟩
    · intro room t
      rw [value.eq_def]
      trivial
    · intro room before t
      rw [members.eq_def]
      trivial
    · intro room before t
      rw [elements.eq_def]
      trivial
  | succ fuel ih =>
    obtain ⟨hvalue, hmembers, helements⟩ := ih
    exact ⟨follows_value_succ hmembers helements,
      fun room => follows_members_succ (hvalue room) (hmembers room),
      fun room => follows_elements_succ (hvalue room) (helements room)⟩

theorem follows_value (collect : Collect) (room : Room) (fuel : Nat) (t : Text) :
    Follows room t (value collect room fuel t) := (follows_reader collect fuel).1 room t

/-- A whole text that stops the reader is one in which it gives up, or at fault. -/
theorem follows_document {collect : Collect} {room : Room} {t : Text} {e : Stop}
    (h : document collect room t = .error e) : Follows room t (.error e : Parsed Json) := by
  have hvalue := (follows_value collect room (2 * t.length + 1) (skipBlanks t)).of_suffix
    (skipBlanks_suffix t)
  unfold document at h
  split at h
  · next e' he =>
    cases h
    rw [he] at hvalue
    exact hvalue
  · split at h
    · cases h
    · cases h
      trivial

end ShareVault.Json.Parser

namespace ShareVault.Json

variable {room : Room}

/-- Where nesting makes the reader give up, there are too many opening brackets. -/
theorem exceededBy_of_parseText {t : Text} (h : parseText room t = .error .tooDeep) :
    room.ExceededBy t := by
  unfold parseText at h
  obtain ⟨e, he, hstop⟩ := Except.mapError_eq_error.mp h
  cases e with
  | tooDeep => exact Parser.follows_document he
  | _ => cases hstop

/-- Only a byte order mark keeps a text from being read. -/
theorem parse_cases (t : Text) :
    (∀ room, parse room t = parseText room t)
      ∨ ∃ fault, ∀ room, parse room t = .error (.malformed fault) := by
  cases t with
  | nil => exact .inl fun _ => rfl
  | cons c t =>
    by_cases hmark : c.val = 0xFEFF
    · exact .inr ⟨_, fun _ => if_pos hmark⟩
    · exact .inl fun _ => if_neg hmark

end ShareVault.Json
