import ShareVault.Proofs.Json.Joined
import ShareVault.Proofs.Json.Literal
import ShareVault.Proofs.Json.Scalar

/-! # Reading a written value back

    A style is read as `f` if the inside of a quoted text `t` is read as `f t`.
    Then the text of a plain value is read as that value, reread with `f`; what
    follows the text is left for later.

    Main statements:
    - `value_write`: reading the text of a value, whatever follows it;
    - `document_write`: reading a text that is that of a value;
    - `parseText_messageText`: the same for messages.
-/

namespace ShareVault.Json.Parser

open Text

/-- The inside of a quoted text of the style is read as `f` of the text. -/
def ReadsAs (s : JsonStyle) (f : Text → Text) : Prop :=
  ∀ opening t rest,
    literalText opening [] false (t.flatMap s.point ++ lit '"' :: rest) = .ok (f t, rest)

theorem readsAs_message : ReadsAs .message Encoding.joinSurrogates := literalText_ascii

/-! ## Where values begin -/

theorem skipBlanks_cons {c : CodePoint} (h : isBlank c = false) (t : Text) :
    skipBlanks (c :: t) = c :: t := by
  simp [skipBlanks, h]

theorem isBlank_of_isDigit {c : CodePoint} (h : c.isDigit = true) : isBlank c = false := by
  simp only [CodePoint.isDigit, Bool.and_eq_true, decide_eq_true_eq] at h
  simp only [isBlank, Bool.or_eq_false_iff, decide_eq_false_iff_not]
  omega

theorem quote_append (s : JsonStyle) (t rest : Text) :
    s.quote t ++ rest = lit '"' :: (t.flatMap s.point ++ lit '"' :: rest) := by
  unfold JsonStyle.quote
  simp [lit]

/-- A value begins with ASCII, but with no blank or closing bracket. -/
theorem exists_write_eq_cons (s : JsonStyle) {v : Json} (hv : v.IsPlain) :
    ∃ c t, v.write s = c :: t ∧ isBlank c = false ∧ c ≠ lit ']' ∧ c.val < 0x80 := by
  cases v with
  | null => exact ⟨_, _, rfl, by decide, by decide, by decide⟩
  | bool b =>
    cases b with
    | true => exact ⟨_, _, rfl, by decide, by decide, by decide⟩
    | false => exact ⟨_, _, rfl, by decide, by decide, by decide⟩
  | int n =>
    obtain ⟨c, t, heq, hbegin⟩ := exists_ofInt_eq_cons n
    refine ⟨c, t, heq, ?_⟩
    rcases hbegin with hdigit | ⟨rfl, -⟩
    · refine ⟨isBlank_of_isDigit hdigit, ?_, ?_⟩
      · rintro rfl
        exact absurd hdigit (by decide)
      · simp only [CodePoint.isDigit, Bool.and_eq_true, decide_eq_true_eq] at hdigit
        omega
    · exact ⟨by decide, by decide, by decide⟩
  | float x => exact absurd hv id
  | text t => exact ⟨_, _, rfl, by decide, by decide, by decide⟩
  | array items => exact ⟨_, _, rfl, by decide, by decide, by decide⟩
  | object members => exact ⟨_, _, rfl, by decide, by decide, by decide⟩

theorem skipBlanks_write (s : JsonStyle) {v : Json} (hv : v.IsPlain) (rest : Text) :
    skipBlanks (v.write s ++ rest) = v.write s ++ rest := by
  obtain ⟨c, t, heq, hblank, -⟩ := exists_write_eq_cons s hv
  rw [heq]
  exact skipBlanks_cons hblank _

/-! ## Scalars -/

variable {collect : Collect} {room : Room} {fuel : Nat}

/-- What is no text, object or array is a word or a number. -/
theorem value_scalar {c : CodePoint} (hquote : c ≠ lit '"') (hbrace : c.val ≠ 0x7B)
    (hbracket : c ≠ lit '[') (u : Text) :
    value collect room (fuel + 1) (c :: u) = match word? (c :: u) with
      | some (v, rest) => .ok (v, rest)
      | none => number (c :: u) := by
  rw [value.eq_def]
  cases word? (c :: u) with
  | none => simp only [if_neg hquote, if_neg hbrace, if_neg hbracket]
  | some p => simp only [if_neg hquote, if_neg hbrace, if_neg hbracket]

theorem value_word {w : Text} {c : CodePoint} {t : Text} (hw : w = c :: t)
    (hquote : c ≠ lit '"') (hbrace : c.val ≠ 0x7B) (hbracket : c ≠ lit '[') {v : Json}
    {rest : Text} (h : word? (w ++ rest) = some (v, rest)) :
    value collect room (fuel + 1) (w ++ rest) = .ok (v, rest) := by
  subst hw
  rw [List.cons_append] at h ⊢
  rw [value_scalar hquote hbrace hbracket, h]

theorem value_eq_number (n : Int) (rest : Text) :
    value collect room (fuel + 1) (ofInt n ++ rest) = number (ofInt n ++ rest) := by
  have hword := word?_ofInt n rest
  obtain ⟨c, t, heq, hbegin⟩ := exists_ofInt_eq_cons n
  have hc : c ≠ lit '"' ∧ c.val ≠ 0x7B ∧ c ≠ lit '[' := by
    rcases hbegin with hdigit | ⟨rfl, -⟩
    · simp only [CodePoint.isDigit, Bool.and_eq_true, decide_eq_true_eq] at hdigit
      refine ⟨?_, by omega, ?_⟩
      · rintro rfl
        exact absurd hdigit (by decide)
      · rintro rfl
        exact absurd hdigit (by decide)
    · exact ⟨by decide, by decide, by decide⟩
  rw [heq, List.cons_append] at hword ⊢
  rw [value_scalar hc.1 hc.2.1 hc.2.2, hword]

theorem value_ofInt {n : Int} (hn : (decimal n.natAbs).length ≤ Json.maxDigits) {rest : Text}
    (hrest : EndsNumeral rest) :
    value collect room (fuel + 1) (ofInt n ++ rest) = .ok (.int n, rest) := by
  rw [value_eq_number, number_ofInt hn hrest]

theorem value_quote {s : JsonStyle} {f : Text → Text} (hs : ReadsAs s f) (t rest : Text) :
    value collect room (fuel + 1) (s.quote t ++ rest) = .ok (.text (f t), rest) := by
  rw [quote_append, value.eq_def]
  simp only [if_true, hs _ t rest]

/-! ## One item, one member -/

theorem value_array {inside : Room} (hroom : room.inside? = some inside) {u : Text}
    {d : CodePoint} {t : Text} (hu : skipBlanks u = d :: t) (hd : d ≠ lit ']') :
    value collect room (fuel + 1) (lit '[' :: u) = elements collect inside fuel [] (d :: t) := by
  rw [value.eq_def]
  simp only [if_neg (show lit '[' ≠ lit '"' by decide),
    if_neg (show (lit '[').val ≠ 0x7B by decide), if_true, hroom, hu, if_neg hd]

theorem value_object {inside : Room} (hroom : room.inside? = some inside) {u : Text}
    {d : CodePoint} {t : Text} (hu : skipBlanks u = d :: t) (hd : d.val ≠ 0x7D) :
    value collect room (fuel + 1) (CodePoint.ofNat 0x7B :: u)
      = members collect inside fuel [] (d :: t) := by
  rw [value.eq_def]
  simp only [if_neg (show CodePoint.ofNat 0x7B ≠ lit '"' by decide),
    if_pos (show (CodePoint.ofNat 0x7B).val = 0x7B by decide), hroom, hu, if_neg hd]

theorem elements_last {before : List Json} {t rest : Text} {v : Json}
    (h : value collect room fuel t = .ok (v, lit ']' :: rest)) :
    elements collect room (fuel + 1) before t = .ok (.array (v :: before).reverse, rest) := by
  rw [elements.eq_def]
  simp only [h, skipBlanks_cons (show isBlank (lit ']') = false by decide), if_true]

theorem elements_next {before : List Json} {t rest : Text} {v : Json}
    (h : value collect room fuel t = .ok (v, lit ',' :: rest)) :
    elements collect room (fuel + 1) before t
      = elements collect room fuel (v :: before) (skipBlanks rest) := by
  rw [elements.eq_def]
  simp only [h, skipBlanks_cons (show isBlank (lit ',') = false by decide),
    if_neg (show lit ',' ≠ lit ']' by decide), if_true]

variable {s : JsonStyle} {f : Text → Text}

theorem members_last (hs : ReadsAs s f) {before : Members} {k u rest : Text} {v : Json}
    (h : value collect room fuel (skipBlanks u) = .ok (v, CodePoint.ofNat 0x7D :: rest)) :
    members collect room (fuel + 1) before (s.quote k ++ lit ':' :: u)
      = .ok (.object (collect (f k) v before), rest) := by
  rw [quote_append, members.eq_def]
  simp only [if_true, hs _ k (lit ':' :: u), h,
    skipBlanks_cons (show isBlank (lit ':') = false by decide),
    skipBlanks_cons (show isBlank (CodePoint.ofNat 0x7D) = false by decide),
    if_pos (show (CodePoint.ofNat 0x7D).val = 0x7D by decide)]

theorem members_next (hs : ReadsAs s f) {before : Members} {k u rest : Text} {v : Json}
    (h : value collect room fuel (skipBlanks u) = .ok (v, lit ',' :: rest)) :
    members collect room (fuel + 1) before (s.quote k ++ lit ':' :: u)
      = members collect room fuel (collect (f k) v before) (skipBlanks rest) := by
  rw [quote_append, members.eq_def]
  simp only [if_true, hs _ k (lit ':' :: u), h,
    skipBlanks_cons (show isBlank (lit ':') = false by decide),
    skipBlanks_cons (show isBlank (lit ',') = false by decide),
    if_neg (show (lit ',').val ≠ 0x7D by decide)]

/-! ## Values -/

theorem endsNumeral_comma (rest : Text) : EndsNumeral (lit ',' :: rest) := by
  refine ⟨?_, ?_, ?_, ?_⟩
  all_goals decide

theorem endsNumeral_bracket (rest : Text) : EndsNumeral (lit ']' :: rest) := by
  refine ⟨?_, ?_, ?_, ?_⟩
  all_goals decide

theorem endsNumeral_brace (rest : Text) : EndsNumeral (CodePoint.ofNat 0x7D :: rest) := by
  refine ⟨?_, ?_, ?_, ?_⟩
  all_goals decide

/-! ### Items and members that go on -/

theorem writeItems_cons (s : JsonStyle) (v w : Json) (vs : List Json) :
    writeItems s (v :: w :: vs) = v.write s ++ lit ',' :: writeItems s (w :: vs) := rfl

theorem writeItems_singleton (s : JsonStyle) (v : Json) :
    writeItems s [v] = v.write s ++ [lit ']'] := rfl

theorem writeMembers_cons (s : JsonStyle) (k k' : Text) (v w : Json) (ms : Members) :
    writeMembers s ((k, v) :: (k', w) :: ms)
      = s.quote k ++ lit ':' :: (v.write s ++ lit ',' :: writeMembers s ((k', w) :: ms)) := by
  simp [writeMembers, lit]

theorem writeMembers_singleton (s : JsonStyle) (k : Text) (v : Json) :
    writeMembers s [(k, v)] = s.quote k ++ lit ':' :: (v.write s ++ [CodePoint.ofNat 0x7D]) := by
  simp [writeMembers, lit]

theorem exists_writeItems_eq_append (s : JsonStyle) (v : Json) (vs : List Json) :
    ∃ u, writeItems s (v :: vs) = v.write s ++ u := by
  cases vs with
  | nil => exact ⟨_, writeItems_singleton s v⟩
  | cons w vs => exact ⟨_, writeItems_cons s v w vs⟩

theorem exists_writeMembers_eq_append (s : JsonStyle) (k : Text) (v : Json) (ms : Members) :
    ∃ u, writeMembers s ((k, v) :: ms) = s.quote k ++ u := by
  cases ms with
  | nil => exact ⟨_, writeMembers_singleton s k v⟩
  | cons p ms => exact ⟨_, writeMembers_cons s k p.1 v p.2 ms⟩

/-- The items of an array begin like its first item. -/
theorem skipBlanks_writeItems (s : JsonStyle) {v : Json} (hv : v.IsPlain) (vs : List Json)
    (rest : Text) : ∃ d t, writeItems s (v :: vs) ++ rest = d :: t
      ∧ skipBlanks (d :: t) = d :: t ∧ d ≠ lit ']' := by
  obtain ⟨c, t, heq, hblank, hne, -⟩ := exists_write_eq_cons s hv
  obtain ⟨u, hu⟩ := exists_writeItems_eq_append s v vs
  rw [hu, heq]
  exact ⟨c, t ++ u ++ rest, rfl, skipBlanks_cons hblank _, hne⟩

/-- The members of an object begin with the quote of the first key. -/
theorem skipBlanks_writeMembers (s : JsonStyle) (k : Text) (v : Json) (ms : Members)
    (rest : Text) : ∃ t, writeMembers s ((k, v) :: ms) ++ rest = lit '"' :: t
      ∧ skipBlanks (lit '"' :: t) = lit '"' :: t := by
  obtain ⟨u, hu⟩ := exists_writeMembers_eq_append s k v ms
  rw [hu, List.append_assoc, quote_append]
  exact ⟨_, rfl, skipBlanks_cons (by decide) _⟩

-- The fuel is twice the length of the text: an array and its first item cost two
-- calls before the second code point.
mutual

/-- The text of a plain value is read as the value, reread. -/
theorem value_write (hs : ReadsAs s f) :
    ∀ {v : Json}, v.IsPlain → ∀ {fuel : Nat}, 2 * (v.write s).length < fuel →
      ∀ {rest : Text}, EndsNumeral rest →
        value collect .unlimited fuel (v.write s ++ rest) = .ok (v.reread collect f, rest)
  | v, hv, 0, hfuel, _, _ => absurd hfuel (by omega)
  | .null, _, fuel + 1, _, rest, _ =>
    value_word rfl (by decide) (by decide) (by decide) (word?_null rest)
  | .bool true, _, fuel + 1, _, rest, _ =>
    value_word rfl (by decide) (by decide) (by decide) (word?_true rest)
  | .bool false, _, fuel + 1, _, rest, _ =>
    value_word rfl (by decide) (by decide) (by decide) (word?_false rest)
  | .int n, hn, fuel + 1, _, rest, hrest => value_ofInt hn hrest
  | .text t, _, fuel + 1, _, rest, _ => value_quote hs t rest
  | .array [], _, fuel + 1, _, rest, _ => rfl
  | .array (v :: vs), hitems, fuel + 1, hfuel, rest, _ => by
    have hlength : 2 * (writeItems s (v :: vs)).length ≤ fuel := by
      have : (write s (.array (v :: vs))).length = (writeItems s (v :: vs)).length + 1 := rfl
      omega
    have hread := elements_write hs (List.cons_ne_nil v vs) hitems hlength [] rest
    -- What comes after the bracket is no other bracket, so the array is not empty.
    obtain ⟨d, t, heq, hskip, hd⟩ := skipBlanks_writeItems s hitems.1 vs rest
    have hopen : write s (.array (v :: vs)) ++ rest = lit '[' :: (d :: t) := by
      rw [← heq]
      rfl
    rw [hopen, value_array rfl hskip hd, ← heq, hread]
    rfl
  | .object [], _, fuel + 1, _, rest, _ => rfl
  | .object ((k, v) :: ms), hmembers, fuel + 1, hfuel, rest, _ => by
    have hlength : 2 * (writeMembers s ((k, v) :: ms)).length ≤ fuel := by
      have : (write s (.object ((k, v) :: ms))).length
          = (writeMembers s ((k, v) :: ms)).length + 1 := rfl
      omega
    have hread := members_write hs (List.cons_ne_nil (k, v) ms) hmembers.2 hlength [] rest
    obtain ⟨t, heq, hskip⟩ := skipBlanks_writeMembers s k v ms rest
    have hopen : write s (.object ((k, v) :: ms)) ++ rest
        = CodePoint.ofNat 0x7B :: (lit '"' :: t) := by
      rw [← heq]
      rfl
    rw [hopen, value_object rfl hskip (by decide), ← heq, hread]
    rfl

/-- The items of an array and its bracket are read as the items, reread. -/
theorem elements_write (hs : ReadsAs s f) :
    ∀ {vs : List Json}, vs ≠ [] → PlainItems vs → ∀ {fuel : Nat},
      2 * (writeItems s vs).length ≤ fuel → ∀ (before : List Json) (rest : Text),
        elements collect .unlimited fuel before (writeItems s vs ++ rest)
          = .ok (.array (before.reverse ++ rereadItems collect f vs), rest)
  | [], hne, _, _, _, _, _ => absurd rfl hne
  | [v], _, hv, 0, hfuel, _, _ => by
    rw [writeItems_singleton, List.length_append, List.length_singleton] at hfuel
    omega
  | [v], _, hv, fuel + 1, hfuel, before, rest => by
    rw [writeItems_singleton, List.length_append, List.length_singleton] at hfuel
    have hfirst := value_write hs hv.1 (show _ < fuel by omega)
      (endsNumeral_bracket rest)
    rw [writeItems_singleton, List.append_assoc, List.singleton_append, elements_last hfirst]
    simp [rereadItems]
  | v :: w :: vs, _, hvs, 0, hfuel, _, _ => by
    rw [writeItems_cons, List.length_append, List.length_cons] at hfuel
    omega
  | v :: w :: vs, _, hvs, fuel + 1, hfuel, before, rest => by
    rw [writeItems_cons, List.length_append, List.length_cons] at hfuel
    have hfirst := value_write hs hvs.1 (show _ < fuel by omega)
      (endsNumeral_comma (writeItems s (w :: vs) ++ rest))
    have hrest := elements_write hs (List.cons_ne_nil w vs) hvs.2
      (show _ ≤ fuel by omega) (v.reread collect f :: before) rest
    obtain ⟨d, t, heq, hskip, -⟩ := skipBlanks_writeItems s hvs.2.1 vs rest
    rw [writeItems_cons, List.append_assoc, List.cons_append, elements_next hfirst, heq, hskip,
      ← heq, hrest]
    simp [rereadItems]

/-- The members of an object and its brace are read as the members, reread. -/
theorem members_write (hs : ReadsAs s f) :
    ∀ {ms : Members}, ms ≠ [] → PlainMembers ms → ∀ {fuel : Nat},
      2 * (writeMembers s ms).length ≤ fuel → ∀ (before : Members) (rest : Text),
        members collect .unlimited fuel before (writeMembers s ms ++ rest)
          = .ok (.object (rereadMembers collect f before ms), rest)
  | [], hne, _, _, _, _, _ => absurd rfl hne
  | [(k, v)], _, hv, 0, hfuel, _, _ => by
    rw [writeMembers_singleton, List.length_append, List.length_cons] at hfuel
    omega
  | [(k, v)], _, hv, fuel + 1, hfuel, before, rest => by
    simp only [writeMembers_singleton, List.length_append, List.length_cons] at hfuel
    have hfirst := value_write hs hv.1 (show _ < fuel by omega)
      (endsNumeral_brace rest)
    -- After the colon the reader skips blanks, of which there are none.
    rw [← skipBlanks_write s hv.1] at hfirst
    rw [writeMembers_singleton, List.append_assoc, List.cons_append, List.append_assoc,
      List.singleton_append, members_last hs hfirst]
    rfl
  | (k, v) :: (k', w) :: ms, _, hms, 0, hfuel, _, _ => by
    rw [writeMembers_cons, List.length_append, List.length_cons] at hfuel
    omega
  | (k, v) :: (k', w) :: ms, _, hms, fuel + 1, hfuel, before, rest => by
    simp only [writeMembers_cons, List.length_append, List.length_cons] at hfuel
    have hfirst := value_write hs hms.1 (show _ < fuel by omega)
      (endsNumeral_comma (writeMembers s ((k', w) :: ms) ++ rest))
    rw [← skipBlanks_write s hms.1] at hfirst
    have hrest := members_write hs (List.cons_ne_nil (k', w) ms) hms.2
      (show _ ≤ fuel by omega) (collect (f k) (v.reread collect f) before) rest
    obtain ⟨t, heq, hskip⟩ := skipBlanks_writeMembers s k' w ms rest
    rw [writeMembers_cons, List.append_assoc, List.cons_append, List.append_assoc,
      List.cons_append, members_next hs hfirst, heq, hskip, ← heq, hrest]
    rfl

end

/-! ## Whole texts -/

/-- A text that is that of a plain value is read as the value, reread. -/
theorem document_write (hs : ReadsAs s f) {v : Json} (hv : v.IsPlain) :
    document collect .unlimited (v.write s) = .ok (v.reread collect f) := by
  have hvalue : value collect .unlimited (2 * (v.write s).length + 1) (v.write s ++ [])
      = .ok (v.reread collect f, []) := value_write hs hv (by omega) trivial
  have hskip := skipBlanks_write s hv []
  rw [List.append_nil] at hvalue hskip
  unfold document
  rw [hskip, hvalue]
  rfl

end ShareVault.Json.Parser

namespace ShareVault.Json

open ShareVault.Json.Parser

/-- A message is read as its value with surrogates joined. -/
theorem parseText_messageText {v : Json} (hv : v.IsPlain) :
    parseText .unlimited v.messageText = .ok v.joined := by
  unfold parseText messageText
  rw [document_write readsAs_message hv]
  rfl

end ShareVault.Json
