-- What YAML nodes mean: as documents, as text, and as values read only to be skipped. Tags decide
-- how a scalar reads, and merge keys bring entries into a mapping.
import TableDdl.Yaml.Node
import TableDdl.Yaml.Scalar
import TableDdl.Text.Base64
import TableDdl.Text.Blank

namespace TableDdl.Yaml

/-- Why a node does not read as wanted. -/
inductive Mismatch where
  /-- A tag demands what the scalar is not. -/
  | tagged (tag : String) (text : String)
  /-- A key that is null. -/
  | nullKey
  /-- A key that is a collection. -/
  | collectionKey
  /-- A key that appears twice. -/
  | duplicateKey (key : String)
  /-- A merge key whose value is not null, a mapping, or a sequence of such values. -/
  | badMerge
  /-- A node that is not the text that is wanted. -/
  | notText
  /-- A `!!binary` scalar that is not base64 of UTF-8 text. -/
  | badBinary
  deriving Inhabited, Repr

/-- The prefix of the core schema's tags. -/
def corePrefix : String := "tag:yaml.org,2002:"

/-- The kinds of tag that decide how a scalar reads. -/
inductive TagKind where
  | untagged
  /-- The non-specific tag `!`. -/
  | nonSpecific
  | str
  | null
  | bool
  | int
  | float
  | binary
  | seq
  | map
  /-- A tag of times or angles, which no document here holds. -/
  | unsupported
  /-- Any other tag. -/
  | other
  deriving DecidableEq, Repr

/-- The name of a tag that may name a kind: the suffix of a core or local tag (`!!int`,
`!int`), or a verbatim local tag (`!<!int>`) without its `!`. -/
def Tag.kindName? (t : Tag) : Option String :=
  if t.handle = corePrefix ∨ t.handle = "!" then some t.suffix
  else if t.handle.isEmpty then
    match t.suffix.toList with
    | '!' :: name => some (String.ofList name)
    | _ => none
  else none

/-- The kind that a tag's name stands for. -/
def TagKind.ofName : String → TagKind
  | "str" => .str
  | "null" => .null
  | "bool" => .bool
  | "int" => .int
  | "float" => .float
  | "binary" => .binary
  | "seq" => .seq
  | "map" => .map
  | "timestamp" | "time" | "degrees" | "radians" => .unsupported
  | _ => .other

/-- The kind of a resolved tag. -/
def TagKind.of : Option Tag → TagKind
  | none => .untagged
  | some t =>
    if t.handle.isEmpty ∧ t.suffix = "!" then .nonSpecific
    else (t.kindName?.map TagKind.ofName).getD .other

/-- Whether a kind of tag demands a value that is not text: a fault on a scalar that is not
null, where a document or text is wanted. -/
def TagKind.demandsOther : TagKind → Bool
  | .bool | .int | .float | .seq | .map | .unsupported => true
  | _ => false

/-- The text of a tag, for messages. -/
def tagText (tag : Option Tag) : String :=
  (tag.map Tag.text).getD ""

/-- Whether a character is left out of `!!binary` text: a space, a tab, a line feed, a form
feed or a carriage return. -/
def isBinaryBlank (c : Char) : Bool :=
  c = ' ' || c = '\t' || c = '\n' || c = '\x0C' || c = '\r'

/-- The text that `!!binary` base64 stands for: ASCII blanks are dropped, and the bytes must be
UTF-8. -/
def binaryText? (text : String) : Option String := do
  let bytes ← Text.base64Decode? (text.toList.filter fun c => !isBinaryBlank c)
  String.fromUTF8? bytes

/-- Whether a scalar is a plain null word. -/
def isPlainNull (text : String) (style : ScalarStyle) : Bool :=
  style = .plain && isNullWord text

/-- Whether a scalar stands for null in a document: tagged `!!null`, or a plain null word. -/
def scalarIsNull (text : String) (style : ScalarStyle) (kind : TagKind) : Bool :=
  kind = .null || isPlainNull text style

/-- Whether a node is a null scalar. -/
def Node.isNull : Node → Bool
  | .scalar text style tag => scalarIsNull text style (TagKind.of tag)
  | _ => false

/-- Whether a node leaves out a value that may be absent: a null scalar, or an empty literal
or folded one. -/
def Node.isAbsent : Node → Bool
  | n@(.scalar text style _) =>
    n.isNull || ((style = .literal || style = .folded) && text.isEmpty)
  | _ => false

/-- The document a scalar stands for. -/
def scalarJson (text : String) (style : ScalarStyle) (tag : Option Tag) : Except Mismatch Json :=
  let kind := TagKind.of tag
  if scalarIsNull text style kind then .ok .null
  else match kind with
    | .binary =>
      match binaryText? text with
      | some t => .ok (.str t)
      | none => .error .badBinary
    | .nonSpecific => .ok (.str text)
    | .untagged | .str | .other => .ok (if style = .plain then plainJson text else .str text)
    | .null | .bool | .int | .float | .seq | .map | .unsupported =>
      .error (.tagged (tagText tag) text)

/-- The text a scalar stands for, where text is wanted: `!!str` keeps any text, a plain null
word is no text, and `!!binary` decodes. -/
def scalarText (text : String) (style : ScalarStyle) (tag : Option Tag) :
    Except Mismatch String :=
  let kind := TagKind.of tag
  if kind = .str then .ok text
  else if isPlainNull text style || kind = .null || kind.demandsOther then .error .notText
  else if kind = .binary then
    match binaryText? text with
    | some t => .ok t
    | none => .error .badBinary
  else .ok text

/-- The text of a node where text is wanted: a scalar that reads as text. -/
def Node.text? : Node → Except Mismatch String
  | .scalar text style tag => scalarText text style tag
  | _ => .error .notText

/-- A key of a document as text. -/
def Node.keyText? : Node → Except Mismatch String
  | .scalar text style tag =>
    match scalarText text style tag with
    | .ok t => .ok t
    | .error _ => .error .nullKey
  | _ => .error .collectionKey

/-- What tells keys apart: a scalar's text as written with its tag; other keys are all
distinct. -/
abbrev KeyName := String × Option Tag

/-- The name of a key. -/
def Node.keyName : Node → Option KeyName
  | .scalar text _ tag => some (text, tag)
  | _ => none

/-- Whether a key is the merge key: a plain untagged `<<`. -/
def Node.isMergeKey : Node → Bool
  | .scalar "<<" .plain none => true
  | _ => false

/-- Whether the value of a merge key brings nothing: a plain null word, whatever its tag. -/
def Node.mergesNothing : Node → Bool
  | .scalar text style _ => isPlainNull text style
  | _ => false

/-- Entries of one mapping, each with the name that tells its key apart. -/
abbrev Keyed (α : Type) := List (Option KeyName × α)

/-- Of the entries, the first of each key name; entries without a name all stay. -/
def firstOfEachKey {α : Type} : Keyed α → List KeyName → Keyed α
  | [], _ => []
  | (some k, a) :: rest, seen =>
    if seen.contains k then firstOfEachKey rest seen
    else (some k, a) :: firstOfEachKey rest (k :: seen)
  | (none, a) :: rest, seen => (none, a) :: firstOfEachKey rest seen

/-- The entries of a mapping gathered so far: those written in it, and those of each merge
source, in the order the sources come. -/
structure Gathered (α : Type) where
  written : Keyed α := []
  merged : List (Keyed α) := []

/-- Adds a written entry; when `strict`, a key written before is a fault. -/
def Gathered.write {α : Type} (g : Gathered α) (strict : Bool) (name : Option KeyName) (a : α) :
    Except Mismatch (Gathered α) :=
  match name with
  | some k =>
    if strict && g.written.any (·.1 == some k) then .error (.duplicateKey k.1)
    else .ok { g with written := g.written ++ [(name, a)] }
  | none => .ok { g with written := g.written ++ [(name, a)] }

/-- The entries of a gathered mapping: the written ones, then the merge sources from the last to
the first, keeping the first entry of each key. -/
def Gathered.keyed {α : Type} (g : Gathered α) : Keyed α :=
  firstOfEachKey (g.written ++ g.merged.reverse.flatten) []

/-- The entries of a gathered mapping, without their key names. -/
def Gathered.entries {α : Type} (g : Gathered α) : List α :=
  g.keyed.map (·.2)

mutual

/-- Gathers the entries of a mapping as nodes. -/
def gatherEntries (strict : Bool) :
    List (Node × Node) → Gathered (Node × Node) → Except Mismatch (Gathered (Node × Node))
  | [], g => .ok g
  | (k, v) :: rest, g =>
    if k.isMergeKey then do
      let sources ← mergeSources v
      gatherEntries strict rest { g with merged := g.merged ++ sources }
    else do
      let g ← g.write strict k.keyName (k, v)
      gatherEntries strict rest g

/-- The entries of each mapping that a merge key's value brings, in order. -/
def mergeSources : Node → Except Mismatch (List (Keyed (Node × Node)))
  | n@(.scalar _ _ _) => if n.mergesNothing then .ok [] else .error .badMerge
  | .map es _ => do
    let g ← gatherEntries false es {}
    .ok [g.keyed]
  | .seq items _ => mergeItemSources items

/-- The entries of each mapping that the items of a merge sequence bring, in order. -/
def mergeItemSources : List Node → Except Mismatch (List (Keyed (Node × Node)))
  | [] => .ok []
  | n :: rest => do
    let first ← mergeSources n
    let more ← mergeItemSources rest
    .ok (first ++ more)

end

/-- The entries of a mapping, its merge keys applied. -/
def entries? (es : List (Node × Node)) : Except Mismatch (List (Node × Node)) :=
  (gatherEntries true es {}).map Gathered.entries

/-- Puts a member into an object's members: a key already there takes the new value in its
place. -/
def putMember (members : List (String × Json)) (m : String × Json) : List (String × Json) :=
  if members.any (·.1 == m.1) then members.map fun e => if e.1 == m.1 then m else e
  else members ++ [m]

mutual

/-- The document a node stands for. -/
def Node.toJson? : Node → Except Mismatch Json
  | .scalar text style tag => scalarJson text style tag
  | .seq items _ => (Node.itemsToJson? items).map .arr
  | .map es _ => do
    let g ← Node.gatherMembers true es {}
    .ok (.obj (g.entries.foldl putMember []))

/-- The documents of sequence items. -/
def Node.itemsToJson? : List Node → Except Mismatch (List Json)
  | [] => .ok []
  | n :: rest => do
    let j ← n.toJson?
    let js ← Node.itemsToJson? rest
    pure (j :: js)

/-- Gathers the members of an object from mapping entries, as `gatherEntries` does. -/
def Node.gatherMembers (strict : Bool) :
    List (Node × Node) → Gathered (String × Json) → Except Mismatch (Gathered (String × Json))
  | [], g => .ok g
  | (k, v) :: rest, g =>
    if k.isMergeKey then do
      let sources ← Node.mergedMembers v
      Node.gatherMembers strict rest { g with merged := g.merged ++ sources }
    else do
      let key ← k.keyText?
      let j ← v.toJson?
      let g ← g.write strict k.keyName (key, j)
      Node.gatherMembers strict rest g

/-- The members that each mapping of a merge key's value brings. -/
def Node.mergedMembers : Node → Except Mismatch (List (Keyed (String × Json)))
  | n@(.scalar _ _ _) => if n.mergesNothing then .ok [] else .error .badMerge
  | .map es _ => do
    let g ← Node.gatherMembers false es {}
    .ok [g.keyed]
  | .seq items _ => Node.mergedItemMembers items

/-- The members that the mappings of a merge sequence's items bring. -/
def Node.mergedItemMembers : List Node → Except Mismatch (List (Keyed (String × Json)))
  | [] => .ok []
  | n :: rest => do
    let first ← Node.mergedMembers n
    let more ← Node.mergedItemMembers rest
    .ok (first ++ more)

end

mutual

/-- Whether a node can be read and thrown away: its scalars read as documents, its merge keys
have fitting values, and (when `strict`) none of its mappings has a key written twice. Keys may
be any node. -/
def Node.skippable (strict : Bool) : Node → Bool
  | .scalar text style tag => (scalarJson text style tag).toBool
  | .seq items _ => Node.itemsSkippable items
  | .map es _ => Node.entriesSkippable strict es []

/-- Whether sequence items can be read and thrown away. -/
def Node.itemsSkippable : List Node → Bool
  | [] => true
  | n :: rest => n.skippable true && Node.itemsSkippable rest

/-- Whether mapping entries can be read and thrown away, after keys named `seen`. -/
def Node.entriesSkippable (strict : Bool) : List (Node × Node) → List KeyName → Bool
  | [], _ => true
  | (k, v) :: rest, seen =>
    if k.isMergeKey then v.mergeSkippable && Node.entriesSkippable strict rest seen
    else
      let fresh := !strict || k.keyName.all fun n => !seen.contains n
      fresh && k.skippable true && v.skippable true &&
        Node.entriesSkippable strict rest (k.keyName.toList ++ seen)

/-- Whether a merge key's value fits and can be read and thrown away. -/
def Node.mergeSkippable : Node → Bool
  | n@(.scalar _ _ _) => n.mergesNothing
  | .map es _ => Node.entriesSkippable false es []
  | .seq items _ => Node.mergeItemsSkippable items

/-- Whether the items of a merge sequence fit and can be read and thrown away. -/
def Node.mergeItemsSkippable : List Node → Bool
  | [] => true
  | n :: rest => n.mergeSkippable && Node.mergeItemsSkippable rest

end

/-- The one document of YAML text: null when it holds none, and nothing when it is not YAML or
holds more than one. -/
def root? (text : String) : Option Node :=
  (document text).toOption

/-- The document that YAML text holds. -/
def parse? (text : String) : Option Json :=
  (root? text).bind fun n => n.toJson?.toOption

end TableDdl.Yaml
