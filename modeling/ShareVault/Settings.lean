import ShareVault.Wire.Reader
import ShareVault.Text.Blank
import ShareVault.Capability.Registry

/-! # Settings

    What clients and scripts are configured with. Settings are read leniently:
    numbers may be written as texts, unknown keys do not count, and what is not
    given has a default.

    ## Layers
    - `Lenient.integer`, `Lenient.number`, `Lenient.path`: lenient readers;
    - `Settings.read`: all settings, or the issues of all of them.
-/

namespace ShareVault

/-! ## Lenient readers -/

namespace Lenient

/-- The text without its underscores, which may stand anywhere but at an end or
    beside one another. There must be one. -/
def withoutUnderscores? (t : Text) : Option Text :=
  let underscore := CodePoint.ofChar '_'
  let parts := Text.splitOn underscore t
  if parts.length < 2 || parts.any List.isEmpty then none else some parts.flatten

/-! ### Integers -/

/-- The integer of a numeral without leading zeros, of at most so many digits as
    are converted. -/
def canonical? (t : Text) : Option Int :=
  let (negative, digits) : Bool × Text := match t with
    | c :: rest => if c = CodePoint.ofChar '-' then (true, rest) else (false, t)
    | [] => (false, [])
  let short := digits.head? != some (CodePoint.ofChar '0') || digits.length == 1
  if digits.isDigits && short && digits.length ≤ Json.maxDigits then
    some (if negative then -(digits.digitsValue : Int) else digits.digitsValue)
  else none

/-- A sign or none, and then more digits than are converted, without a zero in
    front. -/
def isTooLong (t : Text) : Bool :=
  let digits := match t with
    | c :: rest => if c = CodePoint.ofChar '-' then rest else t
    | [] => []
  digits.head? != some (CodePoint.ofChar '0')
    && Json.maxDigits < (digits.takeWhile CodePoint.isDigit).length

/-- What follows the zeros at the start of a numeral, among which underscores may
    stand. The last code point of them, `last`, stays when there is no other digit
    before the end or the point. -/
def afterZeros? (last : CodePoint) : Text → Option Text
  | [] => some [last]
  | c :: rest =>
    if c = CodePoint.ofChar '0' || c = CodePoint.ofChar '_' then afterZeros? c rest
    else if c = CodePoint.ofChar '.' then some (last :: c :: rest)
    else if c.isDigit || c = CodePoint.ofChar '-' then some (c :: rest)
    else none

/-- A numeral without the zeros at its start. It has to start with a digit. -/
def withoutZeros? : Text → Option Text
  | [] => none
  | c :: rest =>
    if c = CodePoint.ofChar '0' then afterZeros? c rest
    else if c.isDigit then some (c :: rest)
    else none

/-- The text without a point that zeros and nothing else follow, one or more. -/
def withoutZeroFraction (t : Text) : Text :=
  match Text.splitAt (CodePoint.ofChar '.') t with
  | (whole, some places) =>
    if !places.isEmpty && places.all (· = CodePoint.ofChar '0') then whole else t
  | (_, none) => t

/-- A numeral in the form that `canonical?` reads: without spaces around it, a
    plus sign, zeros at the start, a fraction of zeros, and underscores. -/
def cleaned? (t : Text) : Option Text :=
  let t := t.trim
  let t := match t with
    | c :: rest => if c = CodePoint.ofChar '+' then rest else t
    | [] => []
  let (sign, digits) : Text × Text := match t with
    | c :: rest => if c = CodePoint.ofChar '-' then ([c], rest) else ([], t)
    | [] => ([], [])
  (withoutZeros? digits).map fun u =>
    let u := withoutZeroFraction u
    sign ++ (withoutUnderscores? u).getD u

/-- The integer that a text writes. Only a numeral that needs no cleaning is said
    to be too long. -/
def integerText (t : Text) : Checked Int :=
  if !t.isWellFormed then Checked.fail .notUnicode
  else if isTooLong t then Checked.fail .integerTooLarge
  else match (canonical? t).or ((cleaned? t).bind canonical?) with
    | some n => .ok n
    | none => Checked.fail .unclearInteger

/-- The integer that a number is. -/
def integerNumber (x : Binary64) : Checked Int :=
  if !x.isFinite then Checked.fail .notFinite
  else match x.toInt? with
    | none => Checked.fail .fractional
    | some n => if n.natAbs < twoTo 63 then .ok n else Checked.fail .integerTooLarge

/-- An integer, or a boolean, a number or a text that means one. -/
def integer : Json → Checked Int
  | .int n => .ok n
  | .bool b => .ok (if b then 1 else 0)
  | .float x => integerNumber x
  | .text t => integerText t
  | _ => Checked.fail .notInteger

/-! ### Numbers -/

/-- The number that a text writes, with spaces around it or with underscores. -/
def numberText (t : Text) : Checked Binary64 :=
  if !t.isWellFormed then Checked.fail .notUnicode
  else match (Binary64.ofNumeral? t.trim).or
      ((withoutUnderscores? t).bind Binary64.ofNumeral?) with
    | some x => .ok x
    | none => Checked.fail .unclearNumber

/-- A number, or a boolean, an integer or a text that means one. An integer beyond
    all doubles is an infinity in a text, and no number when it is at hand. -/
def number (origin : Origin) : Json → Checked Binary64
  | .float x => .ok x
  | .int n =>
    let x := Binary64.ofInt n
    if origin = .text || x.isFinite then .ok x else Checked.fail .notNumber
  | .bool b => .ok (Binary64.ofInt (if b then 1 else 0))
  | .text t => numberText t
  | _ => Checked.fail .notNumber

/-! ### Paths -/

/-- A path in its short form: without empty parts and without parts that mean
    the place itself. One slash at the start stays, and so do exactly two. -/
def shortPath (t : Text) : Text :=
  let slash := CodePoint.ofChar '/'
  let slashes := (t.takeWhile (· = slash)).length
  let start : Text := List.replicate (if slashes = 2 then 2 else min slashes 1) slash
  let parts := (Text.splitOn slash t).filter fun p => !p.isEmpty && p != Text.ofString "."
  let path := start ++ Text.join [slash] parts
  if path.isEmpty then "." else path

/-- A path. -/
def path : Json → Checked Text
  | .text t => .ok (shortPath t)
  | _ => Checked.fail .notPath

end Lenient

/-! ## Settings -/

/-- The configuration of clients and scripts. -/
structure Settings where
  lcdUrl : Text
  vaultAddress : Text
  standardVersion : Int
  extensions : List Text
  timeoutSeconds : Binary64
  snapshotPath : Text

namespace Settings

/-- A version of the standard has sixteen bits. -/
def readVersion (v : Json) : Checked Int :=
  match Lenient.integer v with
  | .ok n =>
    if n < 0 then Checked.fail .belowZero
    else if twoTo 16 - 1 < n then Checked.fail (.above (twoTo 16 - 1))
    else .ok n
  | .error issues => .error issues

/-- A timeout is greater than zero. -/
def readTimeout (origin : Origin) (v : Json) : Checked Binary64 :=
  match Lenient.number origin v with
  | .ok x => if x.isPositive then .ok x else Checked.fail .notPositive
  | .error issues => .error issues

/-- The settings when nothing is given. -/
def default : Settings where
  lcdUrl := "https://lcd.osmosis.zone"
  vaultAddress := ""
  standardVersion := Registry.defaultVersion
  extensions := Registry.defaultNames
  timeoutSeconds := Binary64.ofInt 30
  snapshotPath := "data/processed/vault_snapshots.parquet"

/-- The fields of the settings. -/
def fields (origin : Origin) (m : Members) : Checked Settings :=
  -- The issues come in the order of the fields here.
  (fun p => ⟨p.1, p.2.1, p.2.2.1, p.2.2.2.1, p.2.2.2.2.1, p.2.2.2.2.2⟩) <$>
    Checked.both (Reader.fieldOr m "lcd_url" default.lcdUrl Reader.text)
      (Checked.both (Reader.fieldOr m "vault_address" default.vaultAddress Reader.text)
        (Checked.both (Reader.fieldOr m "standard_version" default.standardVersion readVersion)
          (Checked.both
            (Reader.fieldOr m "extensions" default.extensions (Reader.tuple origin Reader.text))
            (Checked.both
              (Reader.fieldOr m "timeout_seconds" default.timeoutSeconds (readTimeout origin))
              (Reader.fieldOr m "snapshot_path" default.snapshotPath Lenient.path)))))

/-- The settings that a record gives; unknown keys do not count. -/
def read (origin : Origin) : Json → Checked Settings
  | .object m => fields origin m
  | _ => Checked.fail (.notRecord "Settings" origin)

/-- The settings that a strict JSON text gives. -/
def readText : Option Json → Checked Settings
  | some v => read .text v
  | none => Checked.fail .notJson

/-- The address of the gateway without slashes at its end. -/
def gateway (s : Settings) : Text := Text.trimRight (· = CodePoint.ofChar '/') s.lcdUrl

/-- The settings as a JSON value. -/
def toJson (s : Settings) : Json :=
  .object [("lcd_url", .text s.lcdUrl), ("vault_address", .text s.vaultAddress),
    ("standard_version", .int s.standardVersion),
    ("extensions", .array (s.extensions.map .text)),
    ("timeout_seconds", .float s.timeoutSeconds), ("snapshot_path", .text s.snapshotPath)]

end Settings

end ShareVault
