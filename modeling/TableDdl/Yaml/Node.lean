-- YAML nodes, and composing them from events. An alias is a copy of the node its anchor marks, and
-- a composed document keeps within limits of depth, size and merge keys.
import TableDdl.Yaml.Event
import TableDdl.Yaml.Scanner.Stream

namespace TableDdl.Yaml

/-- A YAML node, with its tag resolved. -/
inductive Node where
  | scalar (text : String) (style : ScalarStyle) (tag : Option Tag)
  | seq (items : List Node) (tag : Option Tag)
  | map (entries : List (Node × Node)) (tag : Option Tag)
  deriving Inhabited

/-- The empty plain scalar, which stands for null. -/
def Node.empty : Node := .scalar "" .plain none

namespace Compose

/-- What a node weighs against the limits of composing: how deep its collections nest, how many
nodes it holds (itself among them), and how many merge keys. -/
structure Weight where
  depth : Nat := 0
  nodes : Nat := 1
  merges : Nat := 0
  deriving Inhabited

/-- A collection whose events have begun and not yet ended. -/
structure Frame where
  anchor : Nat
  tag : Option Tag
  mapping : Bool
  /-- The nodes so far; in a mapping, keys and values by turns. -/
  items : Array Node
  /-- The weight of the nodes so far: the deepest, and the sums of nodes and merge keys. -/
  inner : Weight := { nodes := 0 }

/-- The state of composing: the open collections (the innermost first), the nodes that anchors
mark with their weights, the documents so far, how many aliases and anchored nodes came, and
how many nodes and merge keys the document holds with its aliases replaced. -/
structure Composer where
  frames : List Frame := []
  anchored : List (Nat × Node × Weight) := []
  documents : Array Node := #[]
  aliases : Nat := 0
  anchors : Nat := 0
  nodes : Nat := 0
  merges : Nat := 0

/-- The deepest nesting of collections. -/
def maxDepth : Nat := 2000

/-- The most nodes of a document. -/
def maxNodes : Nat := 250000

/-- The most merge keys of a document. -/
def maxMerges : Nat := 10000

/-- The number of aliases from which their count is held to the anchors. -/
def aliasesWatched : Nat := 100

/-- The most aliases for each anchor, once they are watched. -/
def aliasesPerAnchor : Nat := 10

/-- Whether the aliases of a stream stay within their bound. -/
def aliasesWithinBound (aliases anchors : Nat) : Bool :=
  aliases < aliasesWatched || aliases ≤ aliasesPerAnchor * anchors

/-- Pairs keys and values that come by turns. -/
def pairs : List Node → List (Node × Node)
  | k :: v :: rest => (k, v) :: pairs rest
  | _ => []

/-- Whether a node is the merge key `<<`, plain and untagged. -/
def isMergeScalar : Node → Bool
  | .scalar "<<" .plain none => true
  | _ => false

/-- Stops with a problem. -/
def tooMuch {α : Type} (problem : String) : Except SyntaxError α :=
  .error { mark := {}, problem }

/-- Adds a complete node of weight `w` to the innermost open collection, or as a document; an
anchor marks it from now on. A merge key counts where it stands as a key. -/
def Composer.complete (c : Composer) (n : Node) (w : Weight) (anchor : Nat) :
    Except SyntaxError Composer :=
  let c := if anchor > 0 then
    { c with anchored := (anchor, n, w) :: c.anchored, anchors := c.anchors + 1 } else c
  match c.frames with
  | f :: rest =>
    let key := f.mapping && f.items.size % 2 == 0 && isMergeScalar n
    let w := if key then { w with merges := w.merges + 1 } else w
    let merges := if key then c.merges + 1 else c.merges
    if merges > maxMerges then tooMuch "too many merge keys"
    else
      let inner : Weight :=
        { depth := max f.inner.depth w.depth, nodes := f.inner.nodes + w.nodes
          merges := f.inner.merges + w.merges }
      .ok { c with merges, frames := { f with items := f.items.push n, inner } :: rest }
  | [] => .ok { c with documents := c.documents.push n }

/-- Counts `k` more nodes, within the most a document may hold. -/
def Composer.count (c : Composer) (k : Nat) : Except SyntaxError Composer :=
  if c.nodes + k > maxNodes then tooMuch "too many nodes" else .ok { c with nodes := c.nodes + k }

/-- Opens a collection, within the deepest nesting. -/
def Composer.open (c : Composer) (anchor : Nat) (tag : Option Tag) (mapping : Bool) :
    Except SyntaxError Composer := do
  if c.frames.length ≥ maxDepth then tooMuch "collections nest too deep"
  let c ← c.count 1
  .ok { c with frames := { anchor, tag, mapping, items := #[] } :: c.frames }

/-- Takes in one event. -/
def Composer.step (c : Composer) : Event → Except SyntaxError Composer
  | .scalar text style anchor tag => do
    let style := if anchor > 0 && text.isEmpty then .plain else style
    let c ← c.count 1
    c.complete (.scalar text style tag) {} anchor
  | .alias anchor =>
    match c.anchored.lookup anchor with
    | some (n, w) => do
      if c.frames.length + w.depth > maxDepth then tooMuch "collections nest too deep"
      let c ← c.count w.nodes
      let merges := c.merges + w.merges
      if merges > maxMerges then tooMuch "too many merge keys"
      { c with aliases := c.aliases + 1, merges }.complete n w 0
    | none => tooMuch "an alias of a node not yet complete"
  | .sequenceStart anchor tag => c.open anchor tag false
  | .mappingStart anchor tag => c.open anchor tag true
  | .sequenceEnd | .mappingEnd =>
    match c.frames with
    | f :: rest =>
      let n := if f.mapping then Node.map (pairs f.items.toList) f.tag
        else Node.seq f.items.toList f.tag
      let w : Weight :=
        { depth := f.inner.depth + 1, nodes := f.inner.nodes + 1, merges := f.inner.merges }
      { c with frames := rest }.complete n w f.anchor
    | [] => tooMuch "a collection ends that did not start"
  | _ => .ok c

/-- Takes in events until the first document is complete; gives the events after it. -/
def Composer.untilDocument (c : Composer) : List Event → Except SyntaxError (Composer × List Event)
  | [] => .ok (c, [])
  | e :: rest => do
    let c ← c.step e
    if c.documents.isEmpty then c.untilDocument rest else .ok (c, rest)

/-- Reads what follows the first document: its end, and then the end of the stream. Once the
document has ended (`ended`), a fault of the text that stops the events does not count. -/
def afterDocument (ended : Bool) (fault : Option SyntaxError) : List Event → Except SyntaxError Unit
  | .documentEnd :: rest => afterDocument true fault rest
  | .streamEnd :: _ => .ok ()
  | [] =>
    match fault with
    | some e => if ended then .ok () else .error e
    | none => .ok ()
  | _ :: _ => tooMuch "more than one document"

end Compose

/-- The document that events make up, up to `fault` if the text is not YAML: the empty plain
scalar when the stream holds none. -/
def Node.ofEvents (events : List Event) (fault : Option SyntaxError) : Except SyntaxError Node := do
  let (c, rest) ← Compose.Composer.untilDocument {} events
  match c.documents[0]? with
  | none =>
    match fault with
    | some e => .error e
    | none => .ok Node.empty
  | some n =>
    Compose.afterDocument false fault rest
    if Compose.aliasesWithinBound c.aliases c.anchors then .ok n
    else Compose.tooMuch "too many aliases for the anchors"

/-- The document of YAML text, or why it is not YAML. -/
def document (text : String) : Except SyntaxError Node :=
  let (tokens, fault) := Token.scan text
  let (events, fault) := Event.parse tokens fault
  Node.ofEvents events.toList fault

end TableDdl.Yaml
