import ShareVault.Json.Parser
import ShareVault.Text.Encoding

/-! # Strict JSON texts

    The reading of stored records takes fewer texts than `Json.parse`: the
    bytes must be well-formed UTF-8 without a byte order mark, no text in the
    value may hold a surrogate, and the nesting is limited. What a text has to
    satisfy, it has to satisfy also in the members that do not count.
-/

namespace ShareVault.Json

/-- The greatest depth of a strict text. -/
def maxDepth : Nat := 200

/-- Whether a text keeps the limits of strict texts. -/
def isStrict (t : Text) : Bool :=
  t.isWellFormed && match written? t with
    | some v => v.isWellFormed && v.depth ≤ maxDepth
    | none => false

/-- The value of a strict text. -/
def parseStrict? (t : Text) : Option Json :=
  if isStrict t then (Json.parse .unlimited t).toOption else none

/-- The value of the bytes of a strict text. -/
def parseStrictBytes? (b : Bytes) : Option Json := (Encoding.decodeUtf8 b).bind parseStrict?

/-- A surrogate is refused also where a later member replaces it. -/
example : parseStrict? "\x7b\"a\": \"\\ud800\", \"a\": 1\x7d" = none := by decide +kernel

end ShareVault.Json
