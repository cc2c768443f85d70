import ShareVault.Text.Case
import ShareVault.Text.DomainName
import ShareVault.Text.Percent

/-! # Hosts

    The host of an address is a machine, given by its number or by its name. A
    number is written as four octets with dots between them or, in brackets, as
    eight groups of hexadecimal digits with colons between them, of which a run of
    zeros may be left out. A name is kept in ASCII.

    ## Operations
    - `isQuad`, `isGroups`: the two notations of numbers;
    - `hasFitBrackets`: whether an authority has brackets only around a number;
    - `encode?`: a host in the form in which it is sent.

    Main statement: `encode?_of_isQuad`, octets stay as they are.
-/

namespace ShareVault.Host

/-! ## Four octets -/

/-- A number below 256, without superfluous zeros. -/
def isOctet (t : Text) : Bool :=
  t.isDigits && t.length ≤ 3 && t.digitsValue ≤ 255
    && (t.length = 1 || t.head? != some (CodePoint.ofChar '0'))

/-- Four octets with dots between them. -/
def isQuad (t : Text) : Bool :=
  let parts := Text.splitOn (CodePoint.ofChar '.') t
  parts.length = 4 && parts.all isOctet

/-- Four numbers with dots between them: a host that is taken for four octets,
    proper or not. -/
def resemblesQuad (t : Text) : Bool :=
  let parts := Text.splitOn (CodePoint.ofChar '.') t
  parts.length = 4 && parts.all Text.isDigits

/-! ## Eight groups -/

/-- One to four hexadecimal digits. -/
def isGroup (t : Text) : Bool :=
  !t.isEmpty && t.length ≤ 4 && t.all fun c => c.hexValue?.isSome

/-- The number of groups that parts stand for. With `quad`, the last part may be
    four octets, which stand for two groups. -/
def groupCount? (quad : Bool) : List Text → Option Nat
  | [] => some 0
  | [p] => if isGroup p then some 1 else if quad && isQuad p then some 2 else none
  | p :: rest => if isGroup p then (· + 1) <$> groupCount? quad rest else none

/-- The parts of a text between colons; an empty text has none. -/
def partsOf (t : Text) : List Text :=
  if t.isEmpty then [] else Text.splitOn (CodePoint.ofChar ':') t

/-- The text before the first two colons in a row, and the text after them. -/
def splitGap : Text → Text × Option Text
  | [] => ([], none)
  | c :: rest =>
    if c = CodePoint.ofChar ':' && rest.head? == some c then ([], some (rest.drop 1))
    else
      let (before, after) := splitGap rest
      (c :: before, after)

/-- Eight groups with colons between them. Two colons in a row stand for one group
    of zeros or several. -/
def isGroups (t : Text) : Bool :=
  match splitGap t with
  | (all, none) => groupCount? true (partsOf all) == some 8
  | (before, some after) =>
    match groupCount? false (partsOf before), groupCount? true (partsOf after) with
    | some m, some n => m + n ≤ 7
    | _, _ => false

/-- Groups, after which a percent sign and a zone may stand. -/
def isZoned (t : Text) : Bool :=
  match Text.splitAt (CodePoint.ofChar '%') t with
  | (groups, none) => isGroups groups
  | (groups, some zone) =>
    isGroups groups && !zone.isEmpty && !zone.contains (CodePoint.ofChar '%')

/-! ## Brackets -/

/-- A host of a kind to come: `v` with hexadecimal digits, a dot and more. -/
def isFuture (t : Text) : Bool :=
  match Text.splitAt (CodePoint.ofChar '.') t with
  | (v :: version, some rest) =>
    v = CodePoint.ofChar 'v' && !version.isEmpty && version.all (fun c => c.hexValue?.isSome)
      && !rest.isEmpty
  | _ => false

/-- What may stand in brackets. -/
def isBracketed (t : Text) : Bool := isZoned t || isFuture t

/-- The host and the port of an authority, which follow the last `@`. -/
def hostAndPort (authority : Text) : Text :=
  (authority.reverse.takeWhile (· ≠ CodePoint.ofChar '@')).reverse

/-- Whether an authority has no brackets, or its host stands in brackets and may. -/
def hasFitBrackets (authority : Text) : Bool :=
  let left := CodePoint.ofChar '['
  let right := CodePoint.ofChar ']'
  let colon := CodePoint.ofChar ':'
  if authority.contains left && authority.contains right then
    match Text.splitAt left (hostAndPort authority) with
    | ([], some rest) =>
      let (host, port) := Text.splitAt right rest
      (port.getD []).head?.all (· = colon) && isBracketed host
    | (_ :: _, some _) => false
    -- The brackets stand before the host, which then is as if it had some.
    | (rest, none) => isBracketed (Text.splitAt colon rest).1
  else !authority.contains left && !authority.contains right

/-! ## All hosts -/

/-- The inside of brackets. -/
def inside? (t : Text) : Option Text :=
  if t.head? == some (CodePoint.ofChar '[') && t.getLast? == some (CodePoint.ofChar ']')
    && 2 ≤ t.length then some (t.drop 1).dropLast else none

/-- The code points that a name in ASCII has as they are. -/
def isKept (c : CodePoint) : Bool :=
  Percent.isUnreserved c || (Text.ofString "!$&\"'()*+,;=%\\\x60|\x7b\x7d").contains c

/-- A host in the form in which it is sent, unless it is none. -/
def encode? (t : Text) : Option Text :=
  if isQuad t then some t
  else if resemblesQuad t then none
  else match inside? t with
    | some number => if isZoned number then some number else none
    | none =>
      if t.all CodePoint.isAscii then some (Percent.encode isKept t.foldAscii)
      else (DomainName.encode t.lower).toOption

theorem encode?_of_isQuad {t : Text} (h : isQuad t = true) : encode? t = some t := by
  simp [encode?, h]

example : encode? "LCD example" = some ("lcd%20example" : Text) := by decide +kernel

example : encode? "[::ffff:127.0.0.1]" = some ("::ffff:127.0.0.1" : Text) := by decide +kernel

example : encode? "1.2.3.04" = none := by decide +kernel

end ShareVault.Host
