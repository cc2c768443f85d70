import ShareVault.Wire.Reader
import ShareVault.Text.Encoding

/-! # Tagged unions

    A member of a union is written as an object with one key: the tag of its
    variant, over the payload. A union decodes such objects by a table from tags
    to decoders of payloads. Aliases are further tags of known variants; they
    are decoded, but not listed.

    ## Operations
    - `build`: a union from its members and aliases;
    - `add`: one more tag;
    - `tags`, `contains`: the listed tags, and the known ones;
    - `decode`, `read`: a message from a value, from a text or from bytes.

    Main statements:
    - `find?_add_of_find?`: a tag keeps its decoder whatever is added;
    - `decode_singleton`: a single-key object is decoded by the tag's decoder.
-/

namespace ShareVault

/-- A type that the members of a union have in common. By it they are told from other
    values. -/
inductive Base where
  /-- Every value is of this type. -/
  | anything
  | token
  | expiration
  | duration
  | variant
  | capability
deriving DecidableEq, Repr

/-- Decodes the payload of a variant. -/
abbrev Decoder (α : Type) := Json → Except DecodeFault α

/-- A union of variants whose members are of type `α`. -/
structure TaggedUnion (α : Type) where
  name : Text
  /-- The decoder of each tag, in the order in which the tags came. -/
  decoders : List (Text × Decoder α)
  /-- The tags that are other names of earlier ones. -/
  aliases : List Text
  /-- The fault of a tag that is not in the table. -/
  unknown : Text → DecodeFault
  /-- The type of the members. -/
  base : Base

/-- Why a union cannot be built or extended. -/
inductive UnionFault where
  /-- The union has the tag already. -/
  | duplicateTag (union tag : Text)
  /-- An alias is for a tag that the union does not have. -/
  | unboundTarget (target : Text)
deriving DecidableEq, Repr

/-- The wording of a fault. -/
def UnionFault.message : UnionFault → Text
  | .duplicateTag union tag => union ++ " already has a variant tagged " ++ tag.quoted
  | .unboundTarget target => target.quoted

/-- What a message is read from. -/
inductive Source where
  | text (t : Text)
  | bytes (b : Bytes)

/-- The JSON value of a source, as deep as there is room. -/
def Source.json (room : Json.Room) : Source → Except JsonError Json
  | .text t => Json.parse room t
  | .bytes b =>
    match Encoding.decodeText b with
    | some t => Json.parseText room t
    | none => .error .undecodable

namespace TaggedUnion

variable {α β : Type}

/-! ## Tables of tags -/

/-- The decoder of a tag. -/
def find? (u : TaggedUnion α) (tag : Text) : Option (Decoder α) :=
  u.decoders.lookup tag

/-- Whether the tag is known, listed or not. -/
def contains (u : TaggedUnion α) (tag : Text) : Bool :=
  u.decoders.any fun p => p.1 == tag

/-- The listed tags. -/
def tags (u : TaggedUnion α) : List Text :=
  (u.decoders.map Prod.fst).filter fun tag => !u.aliases.contains tag

/-- A union with one more tag. -/
def add (u : TaggedUnion α) (tag : Text) (d : Decoder α) : Except UnionFault (TaggedUnion α) :=
  if u.contains tag then .error (.duplicateTag u.name tag)
  else .ok { u with decoders := u.decoders ++ [(tag, d)] }

/-- A union with one more alias. -/
def addAlias (u : TaggedUnion α) (name target : Text) : Except UnionFault (TaggedUnion α) :=
  match u.find? target with
  | none => .error (.unboundTarget target)
  | some d =>
    match u.add name d with
    | .error e => .error e
    | .ok v => .ok { v with aliases := v.aliases ++ [name] }

/-- A union without members. -/
def empty (name : Text) (base : Base) : TaggedUnion α :=
  { name := name, decoders := [], aliases := []
    unknown := fun tag => .malformed (.unknownVariant name tag), base := base }

/-- Adds members one after the other. -/
def addAll (u : TaggedUnion α) : List (Text × Decoder α) → Except UnionFault (TaggedUnion α)
  | [] => .ok u
  | (tag, d) :: rest =>
    match u.add tag d with
    | .error e => .error e
    | .ok v => v.addAll rest

/-- Adds aliases one after the other; an alias may be for an earlier one. -/
def addAliases (u : TaggedUnion α) : List (Text × Text) → Except UnionFault (TaggedUnion α)
  | [] => .ok u
  | (name, target) :: rest =>
    match u.addAlias name target with
    | .error e => .error e
    | .ok v => v.addAliases rest

/-- The union of some members under their tags, with aliases for some tags. -/
def build (name : Text) (base : Base) (members : List (Text × Decoder α))
    (aliases : List (Text × Text)) : Except UnionFault (TaggedUnion α) :=
  match (empty name base).addAll members with
  | .error e => .error e
  | .ok u => u.addAliases aliases

/-- The union of members whose tags are known to differ. -/
def ofMembers (name : Text) (base : Base) (members : List (Text × Decoder α)) :
    TaggedUnion α :=
  { name := name, decoders := members, aliases := []
    unknown := fun tag => .malformed (.unknownVariant name tag), base := base }

theorem find?_add_of_find? {u v : TaggedUnion α} {tag : Text} {d : Decoder α}
    (h : u.add tag d = .ok v) {other : Text} {e : Decoder α} (he : u.find? other = some e) :
    v.find? other = some e := by
  simp only [add] at h
  split at h
  · simp at h
  -- The new tag comes last, so a tag that was there is found first.
  · cases h
    simp only [find?, List.lookup_append] at he ⊢
    simp [he]

/-! ## Decoding -/

/-- The member that an object with a single key writes. -/
def decode (u : TaggedUnion α) : Json → Except DecodeFault α
  | .object [(tag, payload)] =>
    match u.find? tag with
    | some d => d payload
    | none => .error (u.unknown tag)
  | v => .error (.malformed (.notSingleKey u.name v))

theorem decode_singleton {u : TaggedUnion α} {tag : Text} {d : Decoder α}
    (h : u.find? tag = some d) (payload : Json) :
    u.decode (.object [(tag, payload)]) = d payload := by
  simp [decode, h]

/-- The member that a text or some bytes write, read as deep as there is room. -/
def read (u : TaggedUnion α) (room : Json.Room) (source : Source) : Except ReadFault α :=
  match source.json room with
  | .ok v => (u.decode v).mapError .decode
  | .error (.malformed fault) => .error (.decode (.malformed (.notJson u.name fault)))
  | .error .numeralTooLong => .error .numeralTooLong
  | .error .undecodable => .error .undecodable
  | .error .tooDeep => .error .tooDeep

/-- A union as the type of a field: a fault of its decoder is an issue with the
    field. To a field, a capability that is not enabled is an unknown variant. -/
def field (u : TaggedUnion α) (v : Json) : Checked α :=
  match u.decode v with
  | .ok a => .ok a
  | .error (.malformed m) => Checked.fail (.malformed m)
  | .error (.unsupported c) => Checked.fail (.malformed (.unknownVariant u.name c))

/-- The union with its members seen as something else. -/
def map (f : α → β) (u : TaggedUnion α) : TaggedUnion β :=
  { name := u.name, decoders := u.decoders.map fun p => (p.1, fun v => f <$> p.2 v)
    aliases := u.aliases, unknown := u.unknown, base := u.base }

end TaggedUnion

/-! ## Decoders of payloads -/

/-- A payload that is an object with the given fields. -/
def structPayload {α : Type} (tag : Text) (names : List Text) (fields : Members → Checked α) :
    Decoder α
  | .object m => (Reader.closed names m (fields m)).mapError fun issues =>
      .malformed (.payload tag issues)
  | v => .error (.malformed (.notObject tag v.kind))

/-- A payload that is the value itself; issues name it all the same. -/
def newtypePayload {α : Type} (tag name : Text) (read : Json → Checked α) : Decoder α :=
  fun v => (Checked.under (.key name) (read v)).mapError fun issues =>
    .malformed (.payload tag issues)

end ShareVault
