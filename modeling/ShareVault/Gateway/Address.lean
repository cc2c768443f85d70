import ShareVault.Gateway.Host
import ShareVault.Text.Numeral

/-! # Addresses

    An address has a scheme, an authority with a host, a path, a query and a
    fragment, each of which may be missing. It is kept in the form in which it is
    sent: every part is escaped, the path has no steps to the same or to the parent
    folder, and a port that the scheme implies is left out.

    ## Operations
    - `Address.ofText`: the address that a text writes;
    - `Address.text`: the text of an address;
    - `Address.rawPath`, `Address.withRawPath`: the path together with the query;
    - `Address.extended`: the address with a path below its own.

    Main statements:
    - `isStep_of_mem_foldl`: no such step is left in a path;
    - `normalPath_eq_self`: a path without them stays.
-/

namespace ShareVault

/-- Why a text is no address. -/
inductive AddressFault where
  /-- The text is not that of an address. -/
  | malformed
  /-- A surrogate cannot be escaped, or a part stays that is not in ASCII. -/
  | unencodable
  /-- A label of the host is none. -/
  | label (f : LabelFault)
deriving DecidableEq, Repr

/-! ## Components of a text -/

/-- The parts of a text that may write an address. -/
structure Components where
  scheme : Text
  authority : Text
  path : Text
  query : Option Text
  fragment : Option Text
deriving DecidableEq, Repr

namespace Components

/-- The code points of a scheme. -/
def isSchemePoint (c : CodePoint) : Bool :=
  c.isUpper || c.isLower || c.isDigit || (Text.ofString "+.-").contains c

/-- The scheme at the start of a text, and what is after the colon. -/
def schemeAndRest (t : Text) : Text × Text :=
  let scheme := t.takeWhile isSchemePoint
  match t.dropWhile isSchemePoint with
  | c :: rest =>
    if c = CodePoint.ofChar ':' && scheme.head?.all (fun d => d.isUpper || d.isLower) then
      (scheme, rest)
    else ([], t)
  | [] => ([], t)

/-- The code points that end a path. -/
def endsPath (c : CodePoint) : Bool := c = CodePoint.ofChar '?' || c = CodePoint.ofChar '#'

/-- The code points that end an authority. -/
def endsAuthority (c : CodePoint) : Bool := c = CodePoint.ofChar '/' || endsPath c

/-- The authority at the start of a text, and what is after it. -/
def authorityAndRest (t : Text) : Text × Text :=
  if (Text.ofString "//").isPrefixOf t then
    ((t.drop 2).takeWhile (!endsAuthority ·), (t.drop 2).dropWhile (!endsAuthority ·))
  else ([], t)

/-- The parts of a text. -/
def ofText (t : Text) : Components :=
  let (scheme, rest) := schemeAndRest t
  let (authority, rest) := authorityAndRest rest
  let (rest, fragment) := Text.splitAt (CodePoint.ofChar '#') rest
  let (path, query) := Text.splitAt (CodePoint.ofChar '?') rest
  ⟨scheme, authority, path, query, fragment⟩

/-- The parts of an authority: information about the user, the host, and the
    port. -/
def splitAuthority (t : Text) : Text × Text × Text :=
  let isAt (c : CodePoint) : Bool := c = CodePoint.ofChar '@'
  -- The last sign counts.
  let user := ((t.reverse.dropWhile (!isAt ·)).drop 1).reverse
  let rest := (t.reverse.takeWhile (!isAt ·)).reverse
  let bracket := CodePoint.ofChar ']'
  let isColon (c : CodePoint) : Bool := c = CodePoint.ofChar ':'
  let (host, port) :=
    if rest.head? == some (CodePoint.ofChar '[') && rest.contains bracket then
      ((rest.reverse.dropWhile (· ≠ bracket)).reverse,
        (rest.reverse.takeWhile (· ≠ bracket)).reverse)
    else (rest.takeWhile (!isColon ·), rest.dropWhile (!isColon ·))
  (user, host, if port.head?.any isColon then port.drop 1 else port)

end Components

/-! ## Paths -/

/-- The names that are steps to the same or to the parent folder. -/
def isStep (name : Text) : Bool := name = Text.ofString "." || name = Text.ofString ".."

/-- The folder after one more name of a path. The names of a folder are given with
    the last one first. -/
def enter (folder : List Text) (name : Text) : List Text :=
  if name = Text.ofString "." then folder
  else if name = Text.ofString ".." then
    if folder = [[]] then folder else folder.drop 1
  else name :: folder

/-- The path without steps to the same or to the parent folder. -/
def normalPath (path : Text) : Text :=
  let slash := CodePoint.ofChar '/'
  Text.join [slash] ((Text.splitOn slash path).foldl enter []).reverse

theorem foldl_enter (names folder : List Text) (h : ∀ n ∈ names, isStep n = false) :
    names.foldl enter folder = names.reverse ++ folder := by
  induction names generalizing folder with
  | nil => rfl
  | cons n names ih =>
    have hn := h n (List.mem_cons_self ..)
    simp only [isStep, Bool.or_eq_false_iff, decide_eq_false_iff_not] at hn
    rw [List.foldl_cons, ih _ fun m hm => h m (List.mem_cons_of_mem n hm)]
    simp [enter, hn.1, hn.2]

theorem isStep_of_mem_enter {folder : List Text} (h : ∀ n ∈ folder, isStep n = false)
    (name : Text) : ∀ n ∈ enter folder name, isStep n = false := by
  intro n hn
  simp only [enter] at hn
  split at hn
  · exact h n hn
  · next hd =>
    split at hn
    · split at hn
      · exact h n hn
      · exact h n (List.mem_of_mem_drop hn)
    -- A name that is no step is entered.
    · next hp =>
      rcases List.mem_cons.mp hn with rfl | hn
      · simp [isStep, hd, hp]
      · exact h n hn

theorem isStep_of_mem_foldl (names : List Text) {folder : List Text}
    (h : ∀ n ∈ folder, isStep n = false) : ∀ n ∈ names.foldl enter folder, isStep n = false := by
  induction names generalizing folder with
  | nil => exact h
  | cons name names ih => exact ih (isStep_of_mem_enter h name)

theorem normalPath_eq_self {path : Text}
    (h : ∀ n ∈ Text.splitOn (CodePoint.ofChar '/') path, isStep n = false) :
    normalPath path = path := by
  simp [normalPath, foldl_enter _ _ h, Text.join_splitOn]

/-! ## Addresses -/

/-- An address in the form in which it is sent. -/
structure Address where
  scheme : Text
  userInfo : Text
  host : Text
  port : Option Int
  path : Text
  query : Option Text
  fragment : Option Text
deriving DecidableEq, Repr

namespace Address

/-- The text of the authority, without information about the user. -/
def place (a : Address) : Text :=
  (if a.host.contains (CodePoint.ofChar ':') then ("[" : Text) ++ a.host ++ "]" else a.host)
    ++ (match a.port with
      | some p => CodePoint.ofChar ':' :: Text.ofInt p
      | none => [])

/-- The text of the authority. -/
def authority (a : Address) : Text :=
  (if a.userInfo.isEmpty then [] else a.userInfo ++ ("@" : Text)) ++ a.place

/-- A part with the sign in front of it, if it is there. -/
def marked (sign : Text) : Option Text → Text
  | some t => sign ++ t
  | none => []

/-- The text of an address. -/
def text (a : Address) : Text :=
  (if a.scheme.isEmpty then [] else a.scheme ++ (":" : Text))
    ++ (if a.authority.isEmpty then [] else ("//" : Text) ++ a.authority)
    ++ a.path ++ marked "?" a.query ++ marked "#" a.fragment

/-- The path together with the query. -/
def rawPath (a : Address) : Text :=
  (if a.path.isEmpty then ("/" : Text) else a.path) ++ marked "?" a.query

/-! ## Escapes -/

/-- The code points of ASCII that are shown besides those of `escaped`. -/
def isShown (escaped : Text) (c : CodePoint) : Bool :=
  0x20 < c.val && c.val < 0x7F && !escaped.contains c

/-- A part with escapes. -/
def escape (escaped : Text) (t : Text) : Except AddressFault Text :=
  if t.isWellFormed then .ok (Percent.encode (isShown escaped) t) else .error .unencodable

/-- What is escaped in a fragment. -/
def inFragment : Text := "\"<>\x60"

/-- What is escaped in a query. -/
def inQuery : Text := "\"#<>"

/-- What is escaped in a path. -/
def inPath : Text := inQuery ++ "?\x60\x7b\x7d"

/-- What is escaped in information about the user. -/
def inUserInfo : Text := inPath ++ "/;=@[\\]^|"

/-- A part that may be missing, with escapes. -/
def escape? (escaped : Text) : Option Text → Except AddressFault (Option Text)
  | some t => some <$> escape escaped t
  | none => .ok none

/-! ## Reading -/

/-- The ports that schemes imply. -/
def impliedPort? (scheme : Text) : Option Int :=
  List.lookup scheme [("ftp", 21), ("http", 80), ("https", 443), ("ws", 80), ("wss", 443)]

/-- The digits that a port may have. -/
def maxPortDigits : Nat := 4300

/-- The port that a text writes under a scheme, unless the scheme implies it. -/
def portOf (scheme t : Text) : Except AddressFault (Option Int) :=
  if t.isEmpty then .ok none
  else match t.looseInt? maxPortDigits with
    | some p => .ok (if impliedPort? scheme = some p then none else some p)
    | none => .error .malformed

/-- Whether a path may stand after an authority, or after nothing. -/
def fitsPath (scheme : Text) (hasAuthority : Bool) (path : Text) : Bool :=
  let slashes (t : Text) := t.isPrefixOf path
  if hasAuthority then path.isEmpty || slashes "/"
  else !scheme.isEmpty || !(slashes "//" || slashes ":")

/-- The address that parts write. -/
def ofComponents (c : Components) : Except AddressFault Address := do
  let (user, host, port) := Components.splitAuthority c.authority
  let userInfo ← escape inUserInfo user
  let host ← match Host.encode? host with
    | some h => .ok h
    | none => .error .malformed
  let port ← portOf c.scheme port
  let hasAuthority := !userInfo.isEmpty || !host.isEmpty || port.isSome
  if fitsPath c.scheme hasAuthority c.path then
    -- A path that stands alone keeps its steps: they are taken from elsewhere.
    let path := if hasAuthority || !c.scheme.isEmpty then normalPath c.path else c.path
    return { scheme := c.scheme.foldAscii, userInfo, host, port
             path := ← escape inPath path
             query := ← escape? inQuery c.query
             fragment := ← escape? inFragment c.fragment }
  else throw .malformed

/-- The greatest length of an address, and of each part of one that is put
    together. -/
def maxLength : Nat := 65536

/-- The address that a text writes. -/
def ofText (t : Text) : Except AddressFault Address :=
  if maxLength < t.length || t.any (fun c => c.val < 0x20 || c.val = 0x7F) then .error .malformed
  else ofComponents (Components.ofText t)

/-- The address with another path and query. -/
def withRawPath (a : Address) (raw : Text) : Except AddressFault Address :=
  let (path, query) := Text.splitAt (CodePoint.ofChar '?') raw
  let parts := [a.scheme, a.authority, path, query.getD [], a.fragment.getD []]
  if parts.any (maxLength < ·.length) then .error .malformed
  else ofComponents ⟨a.scheme, a.authority, path, query, a.fragment⟩

/-- The address with the path of another one below its own. -/
def extended (a below : Address) : Except AddressFault Address := do
  let isSlash (c : CodePoint) : Bool := c = CodePoint.ofChar '/'
  let folder ←
    if a.rawPath.getLast?.any isSlash then pure a else a.withRawPath (a.rawPath ++ "/")
  folder.withRawPath (folder.rawPath ++ below.rawPath.dropWhile isSlash)

/-- Whether a host can be asked: its labels are proper if the first one stands for
    a label beyond ASCII, and it is in ASCII. -/
def checkHost (a : Address) : Except AddressFault Unit := do
  if DomainName.asciiMark.isPrefixOf a.host then
    (DomainName.check a.host).mapError .label
  if a.host.all CodePoint.isAscii then .ok () else .error .unencodable

/-- Whether the text of an address starts with the way in which it is reached, and
    has no brackets out of place where its host is. -/
def isReachable (t : Text) : Bool :=
  let ends (c : CodePoint) : Bool := c = CodePoint.ofChar '/' || c = CodePoint.ofChar ':'
  (t.head?.any (!ends ·)) && (t.dropWhile (!ends ·)).head? == some (CodePoint.ofChar ':')
    && Host.hasFitBrackets (Components.ofText t).authority

end Address

end ShareVault
