import ShareVault.Json.Basic
import ShareVault.Number.Layout

/-! # Writing JSON text

    JSON text without blanks. There are two kinds of text: messages, which are
    ASCII and know the names of NaN and the infinities, and values, which show
    every character as it is and have null for a number that JSON cannot write.

    ## Layers
    - `JsonStyle`: how texts and numbers are written;
    - `Json.write`: a value in a style;
    - `Json.messageText`, `Json.valueText?`: the two kinds of text;
    - `Json.fault?`: what keeps a value of any type out of a message.

    Main statement: `Json.depth_lt_of_fault?_eq_none`, what may be written is not
    nested too deep.
-/

namespace ShareVault

/-- How the texts and the numbers of a JSON text are written. -/
structure JsonStyle where
  /-- What stands between the quotes for a code point. -/
  point : CodePoint → Text
  /-- How numbers that are no integers are written. -/
  number : NumberLayout

namespace JsonStyle

/-- The escape of one letter for a code point, if it has one. -/
def shortEscape? (c : CodePoint) : Option Text :=
  if c = CodePoint.ofChar '"' then some "\\\""
  else if c = CodePoint.ofChar '\\' then some "\\\\"
  else if c.val = 0x08 then some "\\b"
  else if c.val = 0x09 then some "\\t"
  else if c.val = 0x0A then some "\\n"
  else if c.val = 0x0C then some "\\f"
  else if c.val = 0x0D then some "\\r"
  else none

/-- The escape of a 16-bit unit by its number. -/
def unitEscape (n : Nat) : Text := "\\u" ++ Text.hex 4 n

/-- A code point in ASCII: itself when it is printable ASCII, else an escape; a
    supplementary code point takes a surrogate pair. -/
def asciiPoint (c : CodePoint) : Text :=
  match shortEscape? c with
  | some t => t
  | none =>
    if 0x20 ≤ c.val && c.val < 0x7F then [c]
    else if c.val < 0x10000 then unitEscape c.val
    else
      let n := c.val - 0x10000
      unitEscape (0xD800 + n / 0x400) ++ unitEscape (0xDC00 + n % 0x400)

/-- A code point as it is, but for control characters. -/
def plainPoint (c : CodePoint) : Text :=
  match shortEscape? c with
  | some t => t
  | none => if c.val < 0x20 then unitEscape c.val else [c]

/-- The style of messages. -/
def message : JsonStyle := { point := asciiPoint, number := .message }

/-- The style of values. -/
def value : JsonStyle := { point := plainPoint, number := .value }

/-- A text between double quotes. -/
def quote (s : JsonStyle) (t : Text) : Text :=
  CodePoint.ofChar '"' :: t.flatMap s.point ++ [CodePoint.ofChar '"']

end JsonStyle

/-- Why a value cannot be written in a message. -/
inductive WriteFault where
  /-- The key of an object holds a surrogate. -/
  | unencodableKey
  /-- Arrays and objects are nested too deep. -/
  | tooDeep
  /-- A value stands for a member of a union, and is none. -/
  | untyped
deriving DecidableEq, Repr

namespace Json

mutual

/-- The JSON text of a value. -/
def write (s : JsonStyle) : Json → Text
  | .null => "null"
  | .bool true => "true"
  | .bool false => "false"
  | .int n => Text.ofInt n
  | .float x => s.number.write x
  | .text t => s.quote t
  | .array items => CodePoint.ofChar '[' :: writeItems s items
  | .object members => CodePoint.ofNat 0x7B :: writeMembers s members

/-- The items of an array with commas between them, and the closing bracket. -/
def writeItems (s : JsonStyle) : List Json → Text
  | [] => "]"
  | [v] => v.write s ++ "]"
  | v :: rest => v.write s ++ CodePoint.ofChar ',' :: writeItems s rest

/-- The members of an object with commas between them, and the closing brace. -/
def writeMembers (s : JsonStyle) : List (Text × Json) → Text
  | [] => [CodePoint.ofNat 0x7D]
  | [(k, v)] => s.quote k ++ CodePoint.ofChar ':' :: v.write s ++ [CodePoint.ofNat 0x7D]
  | (k, v) :: rest =>
    s.quote k ++ CodePoint.ofChar ':' :: v.write s ++ CodePoint.ofChar ',' :: writeMembers s rest

end

/-- The text of a message. -/
def messageText (v : Json) : Text := v.write .message

/-- The text of a value, unless it holds a surrogate, which no encoding of the
    text could write. -/
def valueText? (v : Json) : Option Text :=
  if v.isWellFormed then some (v.write .value) else none

/-- Messages escape what is beyond ASCII, values do not. -/
example : (Json.array [.text "é\n", .float .nan]).messageText
    = ("[\"\\u00e9\\n\",NaN]" : Text) := by decide +kernel

example : (Json.array [.text "é\n", .float .nan]).valueText?
    = some ("[\"é\\n\",null]" : Text) := by decide +kernel

/-! ## Limits of messages -/

/-- The greatest number of values that are nested in one another, the innermost
    one included. -/
def maxLevels : Nat := 255

mutual

/-- The first fault of a value that may have `room` levels. -/
def fault? (room : Nat) : Json → Option WriteFault
  | .array items => if room = 0 then some .tooDeep else itemsFault? (room - 1) items
  | .object members => if room = 0 then some .tooDeep else membersFault? (room - 1) members
  | _ => if room = 0 then some .tooDeep else none

/-- The first fault of an item. -/
def itemsFault? (room : Nat) : List Json → Option WriteFault
  | [] => none
  | v :: rest => (v.fault? room).or (itemsFault? room rest)

/-- The first fault of a key or a member. -/
def membersFault? (room : Nat) : List (Text × Json) → Option WriteFault
  | [] => none
  | (k, v) :: rest =>
    if Text.isWellFormed k then (v.fault? room).or (membersFault? room rest)
    else some .unencodableKey

end

mutual

theorem depth_lt_of_fault?_eq_none {room : Nat} :
    ∀ {v : Json}, v.fault? room = none → v.depth < room
  | .array items, h => by
    simp only [fault?] at h
    split at h
    · simp at h
    · have := depthItems_le_of_fault h
      simp only [depth]
      omega
  | .object members, h => by
    simp only [fault?] at h
    split at h
    · simp at h
    · have := depthMembers_le_of_fault h
      simp only [depth]
      omega
  | .null, h | .bool _, h | .int _, h | .float _, h | .text _, h => by
    simp only [fault?] at h
    split at h
    · simp at h
    · simp only [depth]
      omega

theorem depthItems_le_of_fault {room : Nat} :
    ∀ {vs : List Json}, itemsFault? room vs = none → depthItems vs ≤ room
  | [], _ => by simp [depthItems]
  | v :: rest, h => by
    simp only [itemsFault?, Option.or_eq_none_iff] at h
    have hv := depth_lt_of_fault?_eq_none h.1
    have hr := depthItems_le_of_fault h.2
    simp only [depthItems]
    omega

theorem depthMembers_le_of_fault {room : Nat} :
    ∀ {ms : List (Text × Json)}, membersFault? room ms = none → depthMembers ms ≤ room
  | [], _ => by simp [depthMembers]
  | (k, v) :: rest, h => by
    simp only [membersFault?] at h
    split at h
    · rw [Option.or_eq_none_iff] at h
      have hv := depth_lt_of_fault?_eq_none h.1
      have hr := depthMembers_le_of_fault h.2
      simp only [depthMembers]
      omega
    · simp at h

end

end Json

end ShareVault
