import ShareVault.Gateway.Route
import ShareVault.Proofs.Text.Percent

/-! # Paths of routes

    The path of a route shows letters, digits, percent signs and slashes, and
    nothing that is special in an address. So it is the path of the address that is
    asked, code point by code point, unless it is longer than an address may be. A
    gateway that reads the address finds the route in it.

    Main statements:
    - `url_eq_ok`: the address of a route ends with the path of the route;
    - `url_of_long`: a path that is too long has no address;
    - `route?_url`: the route is read from the address.
-/

namespace ShareVault

/-! ## Splitting at a code point -/

namespace Text

theorem splitAt_of_not_mem {sep : CodePoint} {t : Text} (h : sep ∉ t) :
    splitAt sep t = (t, none) := by
  induction t with
  | nil => rfl
  | cons c t ih =>
    rw [List.mem_cons, not_or] at h
    rw [splitAt, if_neg (Ne.symm h.1), ih h.2]

theorem splitAt_append {sep : CodePoint} {s : Text} (h : sep ∉ s) (t : Text) :
    splitAt sep (s ++ sep :: t) = (s, some t) := by
  induction s with
  | nil => simp [splitAt]
  | cons c s ih =>
    rw [List.mem_cons, not_or] at h
    rw [List.cons_append, splitAt, if_neg (Ne.symm h.1), ih h.2]

/-- A part of a text has no code points but those of the text. -/
theorem mem_of_mem_splitOn {sep c : CodePoint} {t part : Text} (hpart : part ∈ splitOn sep t)
    (hc : c ∈ part) : c ∈ t := by
  induction t generalizing part with
  | nil =>
    obtain rfl := List.mem_singleton.mp hpart
    exact hc
  | cons d t ih =>
    unfold splitOn at hpart
    split at hpart
    · rcases List.mem_cons.mp hpart with rfl | hrest
      · cases hc
      · exact List.mem_cons_of_mem d (ih hrest hc)
    · split at hpart
      · obtain rfl := List.mem_singleton.mp hpart
        obtain rfl := List.mem_singleton.mp hc
        exact List.mem_cons_self ..
      · next first others heq =>
        rcases List.mem_cons.mp hpart with rfl | hrest
        · rcases List.mem_cons.mp hc with rfl | hfirst
          · exact List.mem_cons_self ..
          · exact List.mem_cons_of_mem d (ih (heq ▸ List.mem_cons_self ..) hfirst)
        · exact List.mem_cons_of_mem d (ih (heq ▸ List.mem_cons_of_mem first hrest) hc)

end Text

/-! ## Code points of paths -/

/-- A letter or a digit of ASCII. -/
def isAlphanumeric (c : CodePoint) : Bool := c.isUpper || c.isLower || c.isDigit

/-- The name of a contract as it is used where one is needed. -/
theorem isAlphanumeric_osmo1vault :
    ∀ c ∈ Text.ofString "osmo1vault", isAlphanumeric c = true := by
  rw [← List.all_eq_true]
  decide

/-- The code points of the paths of routes. -/
def isPathPoint (c : CodePoint) : Bool :=
  isAlphanumeric c || c = Percent.sign || c = CodePoint.ofChar '/'

theorem not_mem_of_isPathPoint {d : CodePoint} (hd : isPathPoint d = false) {t : Text}
    (ht : ∀ c ∈ t, isPathPoint c = true) : d ∉ t := by
  intro hmem
  rw [ht d hmem] at hd
  cases hd

theorem val_of_isPathPoint {c : CodePoint} (h : isPathPoint c = true) :
    0x20 < c.val ∧ c.val < 0x7F := by
  have hsign : Percent.sign.val = 0x25 := rfl
  have hslash : (CodePoint.ofChar '/').val = 0x2F := rfl
  simp only [isPathPoint, isAlphanumeric, CodePoint.isUpper, CodePoint.isLower, CodePoint.isDigit,
    Bool.or_eq_true, Bool.and_eq_true, decide_eq_true_eq] at h
  rcases h with (((h | h) | h) | rfl) | rfl <;> omega

namespace Base64

/-- What Base64 has besides letters and digits. -/
def marks : Text := [CodePoint.ofChar '+', CodePoint.ofChar '/', pad]

theorem letter_cases : ∀ n, n < 64 → isAlphanumeric (letter n) = true ∨ letter n ∈ marks := by
  decide +kernel

theorem mem_encode (b : Bytes) : ∀ c ∈ encode b, isAlphanumeric c = true ∨ c ∈ marks := by
  have hpad : isAlphanumeric pad = true ∨ pad ∈ marks := .inr (by decide)
  fun_induction encode b with
  | case1 =>
    intro c hc
    cases hc
  | case2 a x =>
    have hx : x < 256 := a.toNat_lt
    simp only [List.forall_mem_cons]
    exact ⟨letter_cases _ (by omega), letter_cases _ (by omega), hpad, hpad,
      fun _ h => absurd h List.not_mem_nil⟩
  | case3 a b x y =>
    have hx : x < 256 := a.toNat_lt
    have hy : y < 256 := b.toNat_lt
    simp only [List.forall_mem_cons]
    exact ⟨letter_cases _ (by omega), letter_cases _ (by omega), letter_cases _ (by omega), hpad,
      fun _ h => absurd h List.not_mem_nil⟩
  | case4 a b c t x y z ih =>
    have hx : x < 256 := a.toNat_lt
    have hy : y < 256 := b.toNat_lt
    have hz : z < 256 := c.toNat_lt
    simp only [List.forall_mem_cons]
    exact ⟨letter_cases _ (by omega), letter_cases _ (by omega), letter_cases _ (by omega),
      letter_cases _ (by omega), ih⟩

/-- Three bytes take four letters. -/
theorem length_encode (b : Bytes) : 4 * b.length ≤ 3 * (encode b).length := by
  fun_induction encode b with
  | case1 => exact Nat.le_refl 0
  | case2 a x => simp
  | case3 a b x y => simp
  | case4 a b c t x y z ih =>
    simp only [List.length_cons]
    omega

theorem sign_not_mem_encode (b : Bytes) : Percent.sign ∉ encode b := by
  intro hmem
  rcases mem_encode b _ hmem with halpha | hmark
  · exact absurd halpha (by decide)
  · exact absurd hmark (by decide)

end Base64

theorem Percent.isPathPoint_of_mem_escape (b : UInt8) : ∀ c ∈ escape b, isPathPoint c = true := by
  have hcapital : ∀ d, d < 16 → isPathPoint (capital d) = true := by decide
  rw [escape_eq]
  simp only [List.forall_mem_cons]
  exact ⟨rfl, hcapital _ (Nat.mod_lt _ (by decide)), hcapital _ (Nat.mod_lt _ (by decide)),
    fun _ h => absurd h List.not_mem_nil⟩

namespace Endpoint

theorem isPathPoint_of_mem_segment (b : Bytes) : ∀ c ∈ segment b, isPathPoint c = true := by
  intro c hc
  obtain ⟨d, hd, hcd⟩ := List.mem_flatMap.mp hc
  by_cases hkept : Percent.isUnreserved d = true
  · rw [if_pos hkept, List.mem_singleton] at hcd
    subst hcd
    rcases Base64.mem_encode b c hd with halpha | hmark
    · unfold isPathPoint
      rw [halpha]
      rfl
    -- The marks are escaped.
    · have hmarks : Base64.marks.all (fun d => !Percent.isUnreserved d) = true := by decide
      have hescaped := List.all_eq_true.mp hmarks c hmark
      rw [hkept] at hescaped
      cases hescaped
  · rw [if_neg hkept] at hcd
    obtain ⟨byte, -, hbyte⟩ := List.mem_flatMap.mp hcd
    exact Percent.isPathPoint_of_mem_escape byte c hbyte

end Endpoint

/-! ## Addresses that are paths, and addresses with them -/

/-- The path of an address that shows nothing special, and does not begin like an
    authority. -/
structure IsPath (p : Text) : Prop where
  points : ∀ c ∈ p, isPathPoint c = true
  head : ∃ c rest, p = CodePoint.ofChar '/' :: c :: rest ∧ c ≠ CodePoint.ofChar '/'

/-- A gateway by its address. -/
def gatewayText : Text := "https://lcd.example.org"

/-- The parts of that address. -/
def gatewayAddress : Address := ⟨"https", [], "lcd.example.org", none, [], none, none⟩

namespace IsPath

variable {p : Text} (hp : IsPath p)

include hp

theorem not_mem {d : CodePoint} (hd : isPathPoint d = false) : d ∉ p :=
  not_mem_of_isPathPoint hd hp.points

theorem splitAt {d : CodePoint} (hd : isPathPoint d = false) : Text.splitAt d p = (p, none) :=
  Text.splitAt_of_not_mem (hp.not_mem hd)

theorem isWellFormed : p.isWellFormed = true := by
  unfold Text.isWellFormed
  rw [List.all_eq_true]
  intro c hc
  have hascii := (val_of_isPathPoint (hp.points c hc)).2
  have hlow : ¬ 0xD800 ≤ c.val := by omega
  simp [CodePoint.isSurrogate, hlow]

/-- Nothing has to be escaped. -/
theorem escape : Address.escape Address.inPath p = .ok p := by
  have hspecial : Address.inPath.all (fun d => !isPathPoint d) = true := by decide
  have hshown : ∀ c ∈ p, Address.isShown Address.inPath c = true := by
    intro c hc
    obtain ⟨hlow, hhigh⟩ := val_of_isPathPoint (hp.points c hc)
    have hplain : Address.inPath.contains c = false := by
      rw [← Bool.not_eq_true, List.contains_iff_mem]
      intro hmem
      have hnone := List.all_eq_true.mp hspecial c hmem
      rw [hp.points c hc] at hnone
      cases hnone
    simp only [Address.isShown, hplain, hlow, hhigh, decide_true, Bool.not_false, Bool.and_self]
  unfold Address.escape
  rw [if_pos hp.isWellFormed, Percent.encode_eq_self hshown]

/-- No name in the path is a step, for steps have dots. -/
theorem normalPath : normalPath p = p := by
  apply normalPath_eq_self
  intro name hname
  rw [← Bool.not_eq_true]
  intro hstep
  have hdot : CodePoint.ofChar '.' ∈ name := by
    unfold isStep at hstep
    rw [Bool.or_eq_true, decide_eq_true_eq, decide_eq_true_eq] at hstep
    rcases hstep with rfl | rfl
    · decide
    · decide
  exact hp.not_mem (by decide) (Text.mem_of_mem_splitOn hname hdot)

theorem components : Components.ofText p = ⟨[], [], p, none, none⟩ := by
  obtain ⟨c, rest, heq, hc⟩ := hp.head
  have hscheme : Components.schemeAndRest p = ([], p) := by
    rw [heq]
    rfl
  have hauthority : Components.authorityAndRest p = ([], p) := by
    have hslashes : (Text.ofString "//").isPrefixOf p = false := by
      rw [heq]
      show (CodePoint.ofChar '/' == c && true) = false
      simp [Ne.symm hc]
    unfold Components.authorityAndRest
    rw [hslashes]
    rfl
  unfold Components.ofText
  simp only [hscheme, hauthority, hp.splitAt (d := CodePoint.ofChar '#') (by decide),
    hp.splitAt (d := CodePoint.ofChar '?') (by decide)]

theorem components_gateway :
    Components.ofText (gatewayText ++ p) = ⟨"https", "lcd.example.org", p, none, none⟩ := by
  obtain ⟨c, rest, heq, -⟩ := hp.head
  have hscheme : Components.schemeAndRest (gatewayText ++ p)
      = (Text.ofString "https", Text.ofString "//lcd.example.org" ++ p) := rfl
  have hauthority : Components.authorityAndRest (Text.ofString "//lcd.example.org" ++ p)
      = (Text.ofString "lcd.example.org", p) := by
    rw [heq]
    rfl
  unfold Components.ofText
  simp only [hscheme, hauthority, hp.splitAt (d := CodePoint.ofChar '#') (by decide),
    hp.splitAt (d := CodePoint.ofChar '?') (by decide)]

theorem fitsPath {scheme : Text} {hasAuthority : Bool} :
    Address.fitsPath scheme hasAuthority p = true := by
  obtain ⟨c, rest, rfl, hc⟩ := hp.head
  have hcolon : (CodePoint.ofChar ':' == CodePoint.ofChar '/') = false := by decide
  have hslash : (CodePoint.ofChar '/' == c) = false := by simp [Ne.symm hc]
  cases hasAuthority with
  | true => rfl
  | false =>
    show (!scheme.isEmpty || !((CodePoint.ofChar '/' == CodePoint.ofChar '/'
      && (CodePoint.ofChar '/' == c && true)) || (CodePoint.ofChar ':' == CodePoint.ofChar '/'
      && true))) = true
    rw [hcolon, hslash]
    simp

/-- The path alone is an address. -/
theorem ofComponents :
    Address.ofComponents ⟨[], [], p, none, none⟩ = .ok ⟨[], [], [], none, p, none, none⟩ := by
  have hhost : Host.encode? [] = some [] := by decide +kernel
  have huser : Address.escape Address.inUserInfo [] = .ok [] := rfl
  unfold Address.ofComponents
  simp only [show Components.splitAuthority [] = ([], [], []) from rfl, huser, hhost,
    show Address.portOf [] [] = .ok none from rfl, bind, Except.bind, hp.fitsPath, if_true,
    List.isEmpty_nil, Bool.not_true, Option.isSome_none, Bool.or_self, Bool.false_eq_true, if_false,
    hp.escape]
  rfl

/-- The path below a gateway is an address. -/
theorem ofComponents_gateway :
    Address.ofComponents ⟨"https", "lcd.example.org", p, none, none⟩
      = .ok { gatewayAddress with path := p } := by
  have hhost : Host.encode? "lcd.example.org" = some (Text.ofString "lcd.example.org") := by
    decide +kernel
  have huser : Address.escape Address.inUserInfo [] = .ok [] := rfl
  have hauthority : Components.splitAuthority "lcd.example.org"
      = ([], Text.ofString "lcd.example.org", []) := by decide +kernel
  unfold Address.ofComponents
  simp only [hauthority, huser, hhost, show Address.portOf "https" [] = .ok none from rfl, bind,
    Except.bind, hp.fitsPath, if_true, hp.normalPath, ite_self, hp.escape]
  rfl

/-- A path that is not too long is an address. -/
theorem ofText (hlength : p.length ≤ Address.maxLength) :
    Address.ofText p = .ok ⟨[], [], [], none, p, none, none⟩ := by
  have hcontrol : p.any (fun c => c.val < 0x20 || c.val = 0x7F) = false := by
    rw [List.any_eq_false]
    intro c hc
    obtain ⟨hlow, hhigh⟩ := val_of_isPathPoint (hp.points c hc)
    simp only [Bool.or_eq_true, decide_eq_true_eq]
    omega
  unfold Address.ofText
  rw [if_neg (by rw [hcontrol]; simp [hlength]), hp.components]
  exact hp.ofComponents

theorem withRawPath (hlength : p.length ≤ Address.maxLength) :
    gatewayAddress.withRawPath p = .ok { gatewayAddress with path := p } := by
  have hparts : [gatewayAddress.scheme, gatewayAddress.authority, p, [], []].any
      (fun t => decide (Address.maxLength < t.length)) = false := by
    have hscheme : ¬ Address.maxLength < gatewayAddress.scheme.length := by decide
    have hauthority : ¬ Address.maxLength < gatewayAddress.authority.length := by decide
    simp [hscheme, hauthority, hlength]
  unfold Address.withRawPath
  rw [hp.splitAt (by decide)]
  show (if [gatewayAddress.scheme, gatewayAddress.authority, p, [], []].any
      (fun t => decide (Address.maxLength < t.length)) = true then _ else _) = _
  rw [hparts]
  exact hp.ofComponents_gateway

/-- The path of an address below that of a gateway. -/
theorem extended (hlength : p.length ≤ Address.maxLength) :
    gatewayAddress.extended ⟨[], [], [], none, p, none, none⟩
      = .ok { gatewayAddress with path := p } := by
  obtain ⟨c, rest, rfl, hc⟩ := hp.head
  have hbase : gatewayAddress.rawPath = [CodePoint.ofChar '/'] := by decide
  have hraw : Address.rawPath ⟨[], [], [], none, CodePoint.ofChar '/' :: c :: rest, none, none⟩
      = CodePoint.ofChar '/' :: c :: rest := List.append_nil _
  have hrest : (CodePoint.ofChar '/' :: c :: rest).dropWhile
      (fun c => decide (c = CodePoint.ofChar '/')) = c :: rest := by
    rw [List.dropWhile_cons_of_pos (by decide), List.dropWhile_cons_of_neg (by simpa using hc)]
  unfold Address.extended
  simp only [hraw, hrest, hbase]
  exact hp.withRawPath hlength

/-- An address of the gateway can be asked over the network. -/
theorem isReachable : Address.isReachable (gatewayText ++ p) = true := by
  have hbrackets : Host.hasFitBrackets "lcd.example.org" = true := by decide +kernel
  have hscheme : (gatewayText ++ p).dropWhile
      (fun c => !(decide (c = CodePoint.ofChar '/') || decide (c = CodePoint.ofChar ':')))
      = (Text.ofString "://lcd.example.org") ++ p := rfl
  unfold Address.isReachable
  simp only [hscheme, hp.components_gateway, hbrackets]
  rfl

end IsPath

theorem Address.ofText_of_long {t : Text} (h : maxLength < t.length) :
    ofText t = .error .malformed := by
  unfold ofText
  rw [if_pos (by simp [h])]

/-! ## Routes -/

/-- The segment of a path that tells the kind of a route. -/
def Route.kind : Route → Text
  | .smart _ => "smart"
  | .raw _ => "raw"

/-- The bytes that a route carries. -/
def Route.bytes : Route → Bytes
  | .smart query => query
  | .raw key => key

namespace Endpoint

/-- The path of the folder of a contract. -/
def folder (contract : Text) : Text := "/cosmwasm/wasm/v1/contract/" ++ contract ++ "/"

/-- The route that a gateway finds in an address. The path of a request has no
    escapes any more, but they are read once again. -/
def route? (contract url : Text) : Option Route := do
  let path ← Percent.decode? (← Percent.decode? (Components.ofText url).path)
  if (folder contract).isPrefixOf path then
    let (kind, encoded) :=
      Text.splitAt (CodePoint.ofChar '/') (path.drop (folder contract).length)
    let bytes ← Base64.decode? (encoded.getD [])
    if kind = Text.ofString "smart" then some (.smart bytes)
    else if kind = Text.ofString "raw" then some (.raw bytes)
    else none
  else none

/-- The endpoint of a contract behind the gateway. -/
def behind (contract : Text) : Endpoint := .make .unlimited gatewayText contract

theorem ofText_base (contract : Text) :
    Address.ofText (behind contract).base = .ok gatewayAddress := rfl

theorem path_eq (contract : Text) (r : Route) :
    (behind contract).path r
      = folder contract ++ r.kind ++ ("/" : Text) ++ segment r.bytes := by
  unfold path folder
  simp only [List.append_assoc]
  cases r with
  | smart query => rfl
  | raw key => rfl

/-- A path is longer than the bytes of its route. -/
theorem length_lt_path (contract : Text) (r : Route) :
    4 * r.bytes.length < 3 * ((behind contract).path r).length := by
  have hletters := Base64.length_encode r.bytes
  have hsegment := Percent.length_le_encode Percent.isUnreserved (Base64.encode r.bytes)
  have hpath : (segment r.bytes).length < ((behind contract).path r).length := by
    rw [path_eq, List.length_append, List.length_append]
    have hslash : (Text.ofString "/").length = 1 := rfl
    omega
  have hsame : segment r.bytes = Percent.encode Percent.isUnreserved (Base64.encode r.bytes) := rfl
  rw [hsame] at hpath
  omega

section Contract

variable {contract : Text} (hcontract : ∀ c ∈ contract, isAlphanumeric c = true)

include hcontract

theorem isPathPoint_of_mem_start (r : Route) :
    ∀ c ∈ folder contract ++ r.kind ++ ("/" : Text), isPathPoint c = true ∧ c ≠ Percent.sign := by
  have hclosed : ∀ t : Text, t.all (fun c => isPathPoint c && c != Percent.sign) = true →
      ∀ c ∈ t, isPathPoint c = true ∧ c ≠ Percent.sign := by
    intro t ht c hc
    simpa using List.all_eq_true.mp ht c hc
  intro c hc
  unfold folder at hc
  simp only [List.mem_append] at hc
  rcases hc with (((hc | hc) | hc) | hc) | hc
  · exact hclosed "/cosmwasm/wasm/v1/contract/" (by decide +kernel) c hc
  · have halpha := hcontract c hc
    refine ⟨by rw [isPathPoint, halpha]; rfl, ?_⟩
    rintro rfl
    exact absurd halpha (by decide)
  · exact hclosed "/" (by decide) c hc
  · cases r with
    | smart query => exact hclosed "smart" (by decide) c hc
    | raw key => exact hclosed "raw" (by decide) c hc
  · exact hclosed "/" (by decide) c hc

theorem isPath_path (r : Route) : IsPath ((behind contract).path r) := by
  refine ⟨?_, ?_⟩
  · intro c hc
    rw [path_eq, List.mem_append] at hc
    rcases hc with hstart | hsegment
    · exact (isPathPoint_of_mem_start hcontract r c hstart).1
    · exact isPathPoint_of_mem_segment _ c hsegment
  · exact ⟨CodePoint.ofChar 'c', _, rfl, by decide⟩

/-- The address of a route. -/
theorem url_eq_ok {r : Route}
    (hlength : ((behind contract).path r).length ≤ Address.maxLength) :
    (behind contract).url r = .ok (gatewayText ++ (behind contract).path r) := by
  have hp := isPath_path hcontract r
  have htext : Address.text { gatewayAddress with path := (behind contract).path r }
      = gatewayText ++ (behind contract).path r := by
    unfold Address.text
    show _ ++ (behind contract).path r ++ [] ++ [] = _
    rw [List.append_nil, List.append_nil]
    rfl
  have hhost : Address.checkHost { gatewayAddress with path := (behind contract).path r } = .ok () :=
    rfl
  unfold url address
  simp only [ofText_base, hp.ofText hlength, hp.extended hlength, hhost, bind, Except.bind, htext]
  rfl

omit hcontract in
/-- A path that is too long has no address. -/
theorem url_of_long {r : Route} (hlength : Address.maxLength < ((behind contract).path r).length) :
    (behind contract).url r = .error .malformed := by
  unfold url address
  simp only [ofText_base, Address.ofText_of_long hlength, bind, Except.bind]

/-- The route is read from its address. -/
theorem route?_url (r : Route) :
    route? contract (gatewayText ++ (behind contract).path r) = some r := by
  have hp := isPath_path hcontract r
  have hstart : Percent.sign ∉ folder contract ++ r.kind ++ ("/" : Text) :=
    fun hmem => (isPathPoint_of_mem_start hcontract r _ hmem).2 rfl
  have honce : Percent.decode? ((behind contract).path r)
      = some (folder contract ++ r.kind ++ ("/" : Text) ++ Base64.encode r.bytes) := by
    rw [path_eq]
    exact Percent.decode?_append_encode hstart (by decide) _
  have htwice : Percent.decode? (folder contract ++ r.kind ++ ("/" : Text) ++ Base64.encode r.bytes)
      = some (folder contract ++ r.kind ++ ("/" : Text) ++ Base64.encode r.bytes) := by
    apply Percent.decode?_eq_self
    rw [List.mem_append, not_or]
    exact ⟨hstart, Base64.sign_not_mem_encode _⟩
  have hsplit : Text.splitAt (CodePoint.ofChar '/')
      (r.kind ++ CodePoint.ofChar '/' :: Base64.encode r.bytes)
      = (r.kind, some (Base64.encode r.bytes)) := by
    apply Text.splitAt_append
    cases r with
    | smart query =>
      show CodePoint.ofChar '/' ∉ Text.ofString "smart"
      decide
    | raw key =>
      show CodePoint.ofChar '/' ∉ Text.ofString "raw"
      decide
  have hassoc : folder contract ++ r.kind ++ ("/" : Text) ++ Base64.encode r.bytes
      = folder contract ++ (r.kind ++ CodePoint.ofChar '/' :: Base64.encode r.bytes) := by
    simp only [List.append_assoc]
    rfl
  unfold route?
  rw [hp.components_gateway]
  simp only [honce, htwice, bind, Option.bind]
  rw [hassoc, List.drop_left, hsplit, if_pos (List.isPrefixOf_iff_prefix.mpr (List.prefix_append _ _))]
  simp only [Option.getD_some, Base64.decode?_encode]
  cases r with
  | smart query => rfl
  | raw key => rfl

example : route? "osmo1vault"
    "https://lcd.example.org/cosmwasm/wasm/v1/contract/osmo1vault/raw/YQ%3D%3D"
    = some (.raw [0x61]) := by decide +kernel

end Contract

end Endpoint

end ShareVault
