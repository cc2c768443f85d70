import ShareVault.Json.Basic
import ShareVault.Number.Layout
import ShareVault.Text.Quoted

/-! # JSON values in reports

    How a report shows a value: texts quoted as `Text.quoted` does, numbers in
    the layout of reports, blanks after commas and colons, and capitalised words
    for null, true and false.
-/

namespace ShareVault.Json

mutual

/-- A value as a report shows it. -/
def inspect : Json → Text
  | .null => "None"
  | .bool true => "True"
  | .bool false => "False"
  | .int n => Text.ofInt n
  | .float x => NumberLayout.report.write x
  | .text t => t.quoted
  | .array items => CodePoint.ofChar '[' :: inspectItems items
  | .object members => CodePoint.ofNat 0x7B :: inspectMembers members

/-- The items of an array, and the closing bracket. -/
def inspectItems : List Json → Text
  | [] => "]"
  | [v] => v.inspect ++ "]"
  | v :: rest => v.inspect ++ ", " ++ inspectItems rest

/-- The members of an object, and the closing brace. -/
def inspectMembers : List (Text × Json) → Text
  | [] => [CodePoint.ofNat 0x7D]
  | [(k, v)] => Text.quoted k ++ ": " ++ v.inspect ++ [CodePoint.ofNat 0x7D]
  | (k, v) :: rest => Text.quoted k ++ ": " ++ v.inspect ++ ", " ++ inspectMembers rest

end

/-- A value within a sentence: as `inspect` shows it, but a text alone stands
    without quotes. -/
def display : Json → Text
  | .text t => t
  | v => v.inspect

example : (Json.array [.null, .text "it's", .float (.ofRatio false 3 2)]).inspect
    = ("[None, \"it's\", 1.5]" : Text) := by decide +kernel

end ShareVault.Json
