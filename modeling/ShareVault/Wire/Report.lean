import ShareVault.Json.Parser
import ShareVault.Json.Inspect
import ShareVault.Calendar.Parser

/-! # Reports on malformed values

    A value that does not fit its declared type is reported by a list of issues,
    each with the path to its place. Issues nest: the value of a union inside a
    record is decoded as a message of its own, and what is wrong with it is
    reported as one issue of the record.

    ## Types
    - `Step`: a key or an index of a path;
    - `Malformed`: why something is no message;
    - `Issue`, `Problem`: one thing wrong with a value;
    - `DecodeFault`, `ReadFault`: why decoding a value or reading a text fails.
-/

namespace ShareVault

/-- A step of a path into a value. -/
inductive Step where
  /-- To the value of a key. -/
  | key (name : Text)
  /-- To the item with an index. -/
  | index (n : Nat)
deriving DecidableEq, Repr

/-- Where a value comes from: it is at hand, or it is read from JSON text
    together with the record around it. -/
inductive Origin where
  | value
  | text
deriving DecidableEq, Repr

mutual

/-- Why something is no message. -/
inductive Malformed where
  /-- The text for a union is no JSON. -/
  | notJson (union : Text) (fault : JsonFault)
  /-- A message is an object with one key, and this is none. -/
  | notSingleKey (union : Text) (value : Json)
  /-- A message is given to the union of others; it is shown, but is no object. -/
  | foreign (union shown : Text)
  /-- The union has no variant with the tag. -/
  | unknownVariant (union tag : Text)
  /-- The payload of a variant is an object, and this is none. -/
  | notObject (tag : Text) (kind : Json.Kind)
  /-- The payload of a variant has issues. -/
  | payload (tag : Text) (issues : List Issue)
  /-- The response to a query has issues. -/
  | response (tag : Text) (issues : List Issue)

/-- One thing wrong with a value, and its place. -/
inductive Issue where
  | mk (path : List Step) (problem : Problem)

/-- What is wrong with a value. -/
inductive Problem where
  /-- A field without default is not there. -/
  | missing
  /-- A key is no field. -/
  | extra
  | notInteger
  | notText
  /-- A text holds a surrogate where none may be. -/
  | notUnicode
  | notList
  | notTuple (origin : Origin)
  | notBoolean
  /-- A value that may stand for a boolean does not. -/
  | unclearBoolean
  | notRecord (name : Text) (origin : Origin)
  /-- The text is no JSON. -/
  | notJson
  /-- A boolean stands in place of a numeral. -/
  | booleanNumeral
  | notNumeral (t : Text)
  | numeralTooLong (digits : Nat)
  /-- The number does not fit into so many bits. -/
  | outOfRange (n : Int) (bits : Nat)
  /-- The value of a union is malformed. -/
  | malformed (m : Malformed)
  /-- A text that may stand for an integer does not. -/
  | unclearInteger
  | integerTooLarge
  | fractional
  | notFinite
  | notNumber
  | unclearNumber
  | notPositive
  | belowZero
  | above (bound : Nat)
  | notPath
  | notInstant
  | badTimestamp (p : DateProblem)
  | badDate (p : DateProblem)

end

/-- Why a value is no message of a union. -/
inductive DecodeFault where
  | malformed (m : Malformed)
  /-- The payload is for a capability that is not enabled. -/
  | unsupported (capability : Text)

/-- Why a text or some bytes are no message of a union. -/
inductive ReadFault where
  | decode (f : DecodeFault)
  /-- An integer has more digits than are converted. -/
  | numeralTooLong
  /-- The bytes are no text. -/
  | undecodable
  /-- There is no room for an array or an object. -/
  | tooDeep

namespace Issue

/-- The path to the place of the issue. -/
def path : Issue → List Step
  | .mk path _ => path

/-- What is wrong. -/
def problem : Issue → Problem
  | .mk _ problem => problem

/-- An issue with the value as a whole. -/
def here (p : Problem) : Issue := .mk [] p

/-- The issue as seen from one step above. -/
def under (s : Step) : Issue → Issue
  | .mk path problem => .mk (s :: path) problem

end Issue

/-! ## Wording -/

namespace Problem

/-- The word for the kind of a problem. -/
def word : Problem → Text
  | .missing => "missing"
  | .extra => "extra_forbidden"
  | .notInteger => "int_type"
  | .notText => "string_type"
  | .notUnicode => "string_unicode"
  | .notList => "list_type"
  | .notTuple _ => "tuple_type"
  | .notBoolean => "bool_type"
  | .unclearBoolean => "bool_parsing"
  | .notRecord _ _ => "model_type"
  | .notJson => "json_invalid"
  | .booleanNumeral => "value_error"
  | .notNumeral _ => "value_error"
  | .numeralTooLong _ => "value_error"
  | .outOfRange _ _ => "value_error"
  | .malformed _ => "value_error"
  | .unclearInteger => "int_parsing"
  | .integerTooLarge => "int_parsing_size"
  | .fractional => "int_from_float"
  | .notFinite => "finite_number"
  | .notNumber => "float_type"
  | .unclearNumber => "float_parsing"
  | .notPositive => "greater_than"
  | .belowZero => "greater_than_equal"
  | .above _ => "less_than_equal"
  | .notPath => "path_type"
  | .notInstant => "datetime_type"
  | .badTimestamp _ => "datetime_parsing"
  | .badDate _ => "datetime_from_date_parsing"

end Problem

namespace Malformed

/-- The issues with a payload or a response. -/
def issues : Malformed → List Issue
  | .payload _ issues => issues
  | .response _ issues => issues
  | _ => []

/-- Whether the message announces a list of issues. -/
def hasIssues : Malformed → Bool
  | .payload _ _ => true
  | .response _ _ => true
  | _ => false

/-- What is wrong, up to the list of issues. -/
def message : Malformed → Text
  | .notJson union fault => union ++ " is not valid JSON: " ++ fault.message
  | .notSingleKey union value =>
    union ++ " must be an object with exactly one key, got " ++ value.inspect
  | .foreign union shown => union ++ " must be an object with exactly one key, got " ++ shown
  | .unknownVariant union tag => "Unknown " ++ union ++ " variant " ++ tag.quoted
  | .notObject tag kind => "Variant " ++ tag.quoted ++ " expects an object, got " ++ kind.word
  | .payload tag _ => "Invalid " ++ tag.quoted ++ " payload: "
  | .response tag _ => "Invalid response to " ++ tag.quoted ++ ": "

end Malformed

namespace Problem

/-- The wording of a problem. -/
def message : Problem → Text
  | .missing => "Field required"
  | .extra => "Extra inputs are not permitted"
  | .notInteger => "Input should be a valid integer"
  | .notText => "Input should be a valid string"
  | .notUnicode =>
    "Input should be a valid string, unable to parse raw data as a unicode string"
  | .notList => "Input should be a valid list"
  | .notTuple .value => "Input should be a valid tuple"
  | .notTuple .text => "Input should be a valid array"
  | .notBoolean => "Input should be a valid boolean"
  | .unclearBoolean => "Input should be a valid boolean, unable to interpret input"
  | .notRecord name .value => "Input should be a valid dictionary or instance of " ++ name
  | .notRecord _ .text => "Input should be an object"
  | .notJson => "Invalid JSON"
  | .booleanNumeral => "Value error, expected a decimal string, got a boolean"
  | .notNumeral t => "Value error, expected a decimal string, got " ++ t.quoted
  | .numeralTooLong digits =>
    "Value error, Exceeds the limit (" ++ Text.decimal Json.maxDigits
      ++ " digits) for integer string conversion: value has " ++ Text.decimal digits
      ++ " digits; use sys.set_int_max_str_digits() to increase the limit"
  | .outOfRange n bits =>
    "Value error, " ++ Text.ofInt n ++ " is out of range for an unsigned "
      ++ Text.decimal bits ++ "-bit integer"
  | .malformed m => "Value error, " ++ m.message
  | .unclearInteger =>
    "Input should be a valid integer, unable to parse string as an integer"
  | .integerTooLarge =>
    "Unable to parse input string as an integer, exceeded maximum size"
  | .fractional => "Input should be a valid integer, got a number with a fractional part"
  | .notFinite => "Input should be a finite number"
  | .notNumber => "Input should be a valid number"
  | .unclearNumber => "Input should be a valid number, unable to parse string as a number"
  | .notPositive => "Input should be greater than 0"
  | .belowZero => "Input should be greater than or equal to 0"
  | .above bound => "Input should be less than or equal to " ++ Text.decimal bound
  | .notPath => "Input is not a valid path for <class 'pathlib.Path'>"
  | .notInstant => "Input should be a valid datetime"
  | .badTimestamp p => "Input should be a valid datetime, " ++ p.message
  | .badDate p => "Input should be a valid datetime or date, " ++ p.message

end Problem

/-- What a decoding fault says, up to the list of issues. -/
def DecodeFault.message : DecodeFault → Text
  | .malformed m => m.message
  | .unsupported capability => "Unsupported vault extension: " ++ capability.quoted

end ShareVault
