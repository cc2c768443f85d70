import ShareVault.Text.Label
import ShareVault.Text.Punycode

/-! # International domain names

    A domain name is made of labels with dots between them. A label beyond ASCII
    is written in ASCII with a mark in front, `xn--`, and the Punycode of the
    label; `xn--bcher-kva` stands for a label that begins with `bü`. A label that
    is written so has to be a proper label itself.

    ## Operations
    - `checkAscii`: what is wrong with the label that letters of ASCII stand for;
    - `encode`: a name in ASCII;
    - `check`: whether the labels of a name in ASCII are proper.

    Main statement: `encode_eq_ok_length`, a name in ASCII has at most 254 code
    points.
-/

namespace ShareVault.DomainName

/-! ## Labels in ASCII -/

/-- What stands in front of a label that is written in ASCII. -/
def asciiMark : Text := "xn--"

/-- Checks a label in ASCII, and the label that it stands for. -/
def checkAscii (t : Text) : Except LabelFault Unit :=
  let t := t.foldAscii
  if asciiMark.isPrefixOf t then
    let body := t.drop asciiMark.length
    if body.isEmpty || body.getLast? == some (CodePoint.ofChar '-') then .error .shape
    else match Punycode.decode? body with
      | some u => Label.check u
      | none => .error .shape
  else Label.check t

/-- The text, if it is not too long. -/
def limited (limit : Nat) (t : Text) : Except LabelFault Text :=
  if limit < t.length then .error .shape else .ok t

theorem length_of_limited {limit : Nat} {t u : Text} (h : limited limit t = .ok u) :
    u.length ≤ limit := by
  simp only [limited] at h
  split at h
  · simp at h
  · obtain rfl := Except.ok.inj h
    omega

/-- The greatest length of a label in ASCII. -/
def maxLabel : Nat := 63

/-- A label in ASCII. -/
def encodeLabel (t : Text) : Except LabelFault Text :=
  if t.all CodePoint.isAscii then
    match checkAscii t with
    | .ok () => limited maxLabel t
    | .error f => .error f
  else
    match Label.check t with
    | .ok () => limited maxLabel (asciiMark ++ Punycode.encode t)
    | .error f => .error f

/-! ## Names -/

/-- The dots between labels. -/
def isDot (c : CodePoint) : Bool :=
  c.val = 0x2E || c.val = 0x3002 || c.val = 0xFF0E || c.val = 0xFF61

/-- The labels of a name. A dot at the end has no label after it, as the second
    component tells. -/
def labels (t : Text) : List Text × Bool :=
  let dot := CodePoint.ofChar '.'
  let parts := Text.splitOn dot (t.map fun c => if isDot c then dot else c)
  if parts.getLast? == some [] then (parts.dropLast, true) else (parts, false)

/-- The greatest length of a name, without a dot at the end. -/
def maxName : Nat := 253

/-- A name in ASCII. -/
def encode (t : Text) : Except LabelFault Text :=
  let (labels, dotted) := labels t
  match labels.mapM encodeLabel with
  | .error f => .error f
  | .ok [] => .error .shape
  | .ok parts =>
    limited (maxName + dotted.toNat) (Text.join "." (if dotted then parts ++ [[]] else parts))

/-- Checks a name in ASCII. -/
def check (t : Text) : Except LabelFault Unit :=
  let (labels, _) := labels t
  if labels.isEmpty || maxName + 1 < t.length then .error .shape else labels.forM checkAscii

theorem encode_eq_ok_length {t name : Text} (h : encode t = .ok name) :
    name.length ≤ maxName + 1 := by
  simp only [encode] at h
  split at h
  · simp at h
  · simp at h
  · have := length_of_limited h
    have := Bool.toNat_le (labels t).2
    omega

example : (encode "bücher.example").toOption = some ("xn--bcher-kva.example" : Text) := by
  decide +kernel

example : (encode "☃.net").toOption = none := by decide +kernel

end ShareVault.DomainName
