-- YAML events, and parsing a token stream into them. The parser is a state machine with a stack of
-- states to return to, one step an event, and four steps a token bound its run.
import TableDdl.Yaml.Token

namespace TableDdl.Yaml

/-- A tag, with its handle resolved to a prefix. -/
structure Tag where
  handle : String
  suffix : String
  deriving Inhabited, Repr, DecidableEq

/-- The whole text of a tag. -/
def Tag.text (t : Tag) : String := t.handle ++ t.suffix

/-- An event. An anchor is a positive number, or 0 for none. -/
inductive Event where
  | streamStart
  | streamEnd
  | documentStart (explicit : Bool)
  | documentEnd
  | alias (anchor : Nat)
  | scalar (text : String) (style : ScalarStyle) (anchor : Nat) (tag : Option Tag)
  | sequenceStart (anchor : Nat) (tag : Option Tag)
  | sequenceEnd
  | mappingStart (anchor : Nat) (tag : Option Tag)
  | mappingEnd
  deriving Inhabited, Repr

/-- The empty plain scalar, with properties. -/
def Event.empty (anchor : Nat := 0) (tag : Option Tag := none) : Event :=
  .scalar "" .plain anchor tag

/-- Where the parser is. -/
inductive ParseState where
  | streamStart
  | implicitDocumentStart
  | documentStart
  | documentContent
  | documentEnd
  | blockNode
  | blockMappingFirstKey
  | blockMappingKey
  | blockMappingValue
  | blockSequenceFirstEntry
  | blockSequenceEntry
  | indentlessSequenceEntry
  | flowSequenceFirstEntry
  | flowSequenceEntry
  | flowSequenceEntryMappingKey
  | flowSequenceEntryMappingValue
  | flowSequenceEntryMappingEnd
  | flowMappingFirstKey
  | flowMappingKey
  | flowMappingValue
  | flowMappingEmptyValue
  | finished
  deriving Inhabited, DecidableEq

/-- The parser's state. -/
structure Parser where
  tokens : Array Token
  /-- The fault of the text after the tokens, if it is not YAML. -/
  fault : Option SyntaxError := none
  position : Nat := 0
  state : ParseState := .streamStart
  /-- The states to return to, the next first. -/
  states : List ParseState := []
  /-- Each anchor name with its latest number. -/
  anchors : List (String × Nat) := []
  nextAnchor : Nat := 1
  /-- The tag directives of the document: handle and prefix. -/
  tags : List (String × String) := []
  deriving Inhabited

/-- Parsing steps. -/
abbrev ParseM := StateT Parser (Except SyntaxError)

namespace Parse

/-- The current token; past the tokens, the fault of the text, or else the end of the stream. -/
def peek : ParseM Token := do
  let p ← get
  match p.tokens[p.position]?, p.fault with
  | some t, _ => pure t
  | none, some e => throw e
  | none, none => pure { mark := {}, kind := .streamEnd }

/-- Stops with a problem at the current token. -/
def fail {α : Type} (problem : String) : ParseM α := do
  throw { mark := (← peek).mark, problem }

/-- Moves past the current token. -/
def skip : ParseM Unit :=
  modify fun p => { p with position := p.position + 1 }

/-- Goes on in `st`. -/
def goTo (st : ParseState) : ParseM Unit :=
  modify fun p => { p with state := st }

/-- Remembers `st` to return to. -/
def pushState (st : ParseState) : ParseM Unit :=
  modify fun p => { p with states := st :: p.states }

/-- Returns to the latest remembered state. -/
def popState : ParseM Unit :=
  modify fun p => match p.states with
    | st :: rest => { p with state := st, states := rest }
    | [] => { p with state := .finished }

/-- Gives an anchor name a fresh number. -/
def registerAnchor (name : String) : ParseM Nat := do
  let p ← get
  set { p with anchors := (name, p.nextAnchor) :: p.anchors, nextAnchor := p.nextAnchor + 1 }
  pure p.nextAnchor

/-- Whether a handle is a named or secondary one, `!…!`. -/
def isNamedHandle (handle : String) : Bool :=
  handle.length ≥ 2 && handle.startsWith "!" && handle.endsWith "!"

/-- Resolves a tag's handle by the document's directives. -/
def resolveTag (handle suffix : String) : ParseM Tag := do
  let tags := (← get).tags
  if handle = "!!" then pure { handle := (tags.lookup "!!").getD "tag:yaml.org,2002:", suffix }
  else if handle.isEmpty ∧ suffix = "!" then pure { handle := (tags.lookup "").getD "", suffix }
  else match tags.lookup handle with
    | some uri => pure { handle := uri, suffix }
    | none =>
      if isNamedHandle handle then fail "the handle wasn't declared" else pure { handle, suffix }

/-- Reads the directives before a document. -/
def directives : ParseM Unit := do
  let mut versionSeen := false
  let count := (← get).tokens.size
  for _ in [0:count + 1] do
    match (← peek).kind with
    | .versionDirective _ _ =>
      if versionSeen then fail "duplicate version directive"
      versionSeen := true
      skip
    | .tagDirective handle uri =>
      modify fun p => { p with tags := (handle, uri) :: p.tags }
      skip
    | _ => break

/-- Whether a token is a directive. -/
def isDirective : TokenKind → Bool
  | .versionDirective _ _ | .tagDirective _ _ => true
  | _ => false

/-- A document that starts with `---`. -/
def explicitDocumentStart : ParseM Event := do
  directives
  match (← peek).kind with
  | .documentStart =>
    pushState .documentEnd
    goTo .documentContent
    skip
    pure (.documentStart true)
  | _ => fail "did not find expected <document start>"

/-- The start of a document, or the end of the stream; `implicit` lets a document start without
`---`. -/
def documentStart (implicit : Bool) : ParseM Event := do
  let count := (← get).tokens.size
  for _ in [0:count + 1] do
    match (← peek).kind with
    | .documentEnd => skip
    | _ => break
  let t ← peek
  match t.kind with
  | .streamEnd =>
    goTo .finished
    skip
    pure .streamEnd
  | .documentStart => explicitDocumentStart
  | k =>
    if isDirective k then explicitDocumentStart
    else if implicit then
      directives
      pushState .documentEnd
      goTo .blockNode
      pure (.documentStart false)
    else explicitDocumentStart

/-- The end of a document; after an explicit `...` the next document may start without
`---`. -/
def documentEnd : ParseM Event := do
  let explicit := match (← peek).kind with
    | .documentEnd => true
    | _ => false
  if explicit then skip
  modify fun p => { p with tags := [] }
  if explicit then goTo .implicitDocumentStart
  else
    if isDirective (← peek).kind then
      fail "missing explicit document end marker before directive"
    goTo .documentStart
  pure .documentEnd

/-- A node: its properties, then its content. A block collection may stand here when `block`
holds, and a sequence of `-` entries at the indentation of its mapping key when `indentless`
holds. -/
def node (block indentless : Bool) : ParseM Event := do
  let t ← peek
  match t.kind with
  | .alias name =>
    popState
    skip
    match (← get).anchors.lookup name with
    | some id => pure (.alias id)
    | none => fail "while parsing node, found unknown anchor"
  | _ =>
    let mut anchor := 0
    let mut tag : Option Tag := none
    match t.kind with
    | .anchor name =>
      skip
      anchor ← registerAnchor name
      match (← peek).kind with
      | .tag handle suffix =>
        skip
        tag := some (← resolveTag handle suffix)
      | _ => pure ()
    | .tag handle suffix =>
      skip
      tag := some (← resolveTag handle suffix)
      match (← peek).kind with
      | .anchor name =>
        skip
        anchor ← registerAnchor name
      | _ => pure ()
    | _ => pure ()
    let onlyProperties : ParseM Event := do
      if tag.isSome ∨ anchor > 0 then
        popState
        pure (Event.empty anchor tag)
      else fail "while parsing a node, did not find expected node content"
    match (← peek).kind with
    | .blockEntry =>
      if indentless then
        goTo .indentlessSequenceEntry
        pure (.sequenceStart anchor tag)
      else onlyProperties
    | .scalar style text =>
      popState
      skip
      pure (.scalar text style anchor tag)
    | .flowSequenceStart =>
      goTo .flowSequenceFirstEntry
      pure (.sequenceStart anchor tag)
    | .flowMappingStart =>
      goTo .flowMappingFirstKey
      pure (.mappingStart anchor tag)
    | .blockSequenceStart =>
      if block then
        goTo .blockSequenceFirstEntry
        pure (.sequenceStart anchor tag)
      else onlyProperties
    | .blockMappingStart =>
      if block then
        goTo .blockMappingFirstKey
        pure (.mappingStart anchor tag)
      else onlyProperties
    | _ => onlyProperties

/-- An entry of a block sequence, or its end. -/
def blockSequenceEntry (first : Bool) : ParseM Event := do
  if first then skip
  let t ← peek
  match t.kind with
  | .blockEnd =>
    popState
    skip
    pure .sequenceEnd
  | .blockEntry =>
    skip
    match (← peek).kind with
    | .blockEntry | .blockEnd =>
      goTo .blockSequenceEntry
      pure Event.empty
    | _ =>
      pushState .blockSequenceEntry
      node true false
  | _ => fail "while parsing a block collection, did not find expected '-' indicator"

/-- A key of a block mapping, or its end. -/
def blockMappingKey (first : Bool) : ParseM Event := do
  if first then skip
  match (← peek).kind with
  | .key =>
    skip
    match (← peek).kind with
    | .key | .value | .blockEnd =>
      goTo .blockMappingValue
      pure Event.empty
    | _ =>
      pushState .blockMappingValue
      node true true
  | .value =>
    goTo .blockMappingValue
    pure Event.empty
  | .blockEnd =>
    popState
    skip
    pure .mappingEnd
  | _ => fail "while parsing a block mapping, did not find expected key"

/-- A value of a block mapping. -/
def blockMappingValue : ParseM Event := do
  match (← peek).kind with
  | .value =>
    skip
    match (← peek).kind with
    | .key | .value | .blockEnd =>
      goTo .blockMappingKey
      pure Event.empty
    | _ =>
      pushState .blockMappingKey
      node true true
  | _ =>
    goTo .blockMappingKey
    pure Event.empty

/-- An entry of a sequence of `-` entries at its key's indentation, or its end. -/
def indentlessSequenceEntry : ParseM Event := do
  match (← peek).kind with
  | .blockEntry =>
    skip
    match (← peek).kind with
    | .blockEntry | .key | .value | .blockEnd =>
      goTo .indentlessSequenceEntry
      pure Event.empty
    | _ =>
      pushState .indentlessSequenceEntry
      node true false
  | _ =>
    popState
    pure .sequenceEnd

/-- An entry of a flow sequence, or its end. -/
def flowSequenceEntry (first : Bool) : ParseM Event := do
  if first then skip
  let ended : ParseM Event := do
    popState
    skip
    pure .sequenceEnd
  match (← peek).kind with
  | .flowSequenceEnd => ended
  | .flowEntry =>
    if first then
      pushState .flowSequenceEntry
      node false false
    else
      skip
      match (← peek).kind with
      | .flowSequenceEnd => ended
      | .key =>
        goTo .flowSequenceEntryMappingKey
        skip
        pure (.mappingStart 0 none)
      | _ =>
        pushState .flowSequenceEntry
        node false false
  | .key =>
    if first then
      goTo .flowSequenceEntryMappingKey
      skip
      pure (.mappingStart 0 none)
    else fail "while parsing a flow sequence, expected ',' or ']'"
  | _ =>
    if first then
      pushState .flowSequenceEntry
      node false false
    else fail "while parsing a flow sequence, expected ',' or ']'"

/-- The key of a one-pair mapping in a flow sequence. -/
def flowSequenceEntryMappingKey : ParseM Event := do
  match (← peek).kind with
  | .value | .flowEntry | .flowSequenceEnd =>
    skip
    goTo .flowSequenceEntryMappingValue
    pure Event.empty
  | _ =>
    pushState .flowSequenceEntryMappingValue
    node false false

/-- The value of a one-pair mapping in a flow sequence. -/
def flowSequenceEntryMappingValue : ParseM Event := do
  match (← peek).kind with
  | .value =>
    skip
    match (← peek).kind with
    | .flowEntry | .flowSequenceEnd =>
      goTo .flowSequenceEntryMappingEnd
      pure Event.empty
    | _ =>
      pushState .flowSequenceEntryMappingEnd
      node false false
  | _ =>
    goTo .flowSequenceEntryMappingEnd
    pure Event.empty

/-- A key of a flow mapping, or its end. -/
def flowMappingKey (first : Bool) : ParseM Event := do
  if first then skip
  let ended : ParseM Event := do
    popState
    skip
    pure .mappingEnd
  match (← peek).kind with
  | .flowMappingEnd => ended
  | _ =>
    if !first then
      match (← peek).kind with
      | .flowEntry => skip
      | _ => fail "while parsing a flow mapping, did not find expected ',' or '\x7d'"
    match (← peek).kind with
    | .key =>
      skip
      match (← peek).kind with
      | .value | .flowEntry | .flowMappingEnd =>
        goTo .flowMappingValue
        pure Event.empty
      | _ =>
        pushState .flowMappingValue
        node false false
    | .value =>
      goTo .flowMappingValue
      pure Event.empty
    | .flowMappingEnd => ended
    | _ =>
      pushState .flowMappingEmptyValue
      node false false

/-- A value of a flow mapping; `empty` when its key stood alone. -/
def flowMappingValue (empty : Bool) : ParseM Event := do
  if empty then
    goTo .flowMappingKey
    return Event.empty
  match (← peek).kind with
  | .value =>
    skip
    match (← peek).kind with
    | .flowEntry | .flowMappingEnd =>
      goTo .flowMappingKey
      pure Event.empty
    | _ =>
      pushState .flowMappingKey
      node false false
  | _ =>
    goTo .flowMappingKey
    pure Event.empty

/-- One step: the next event. -/
def step : ParseM Event := do
  match (← get).state with
  | .streamStart =>
    match (← peek).kind with
    | .streamStart =>
      goTo .implicitDocumentStart
      skip
      pure .streamStart
    | _ => fail "did not find expected <stream-start>"
  | .implicitDocumentStart => documentStart true
  | .documentStart => documentStart false
  | .documentContent =>
    match (← peek).kind with
    | .versionDirective _ _ | .tagDirective _ _ | .documentStart | .documentEnd | .streamEnd =>
      popState
      pure Event.empty
    | _ => node true false
  | .documentEnd => documentEnd
  | .blockNode => node true false
  | .blockMappingFirstKey => blockMappingKey true
  | .blockMappingKey => blockMappingKey false
  | .blockMappingValue => blockMappingValue
  | .blockSequenceFirstEntry => blockSequenceEntry true
  | .blockSequenceEntry => blockSequenceEntry false
  | .indentlessSequenceEntry => indentlessSequenceEntry
  | .flowSequenceFirstEntry => flowSequenceEntry true
  | .flowSequenceEntry => flowSequenceEntry false
  | .flowSequenceEntryMappingKey => flowSequenceEntryMappingKey
  | .flowSequenceEntryMappingValue => flowSequenceEntryMappingValue
  | .flowSequenceEntryMappingEnd =>
    goTo .flowSequenceEntry
    pure .mappingEnd
  | .flowMappingFirstKey => flowMappingKey true
  | .flowMappingKey => flowMappingKey false
  | .flowMappingValue => flowMappingValue false
  | .flowMappingEmptyValue => flowMappingValue true
  | .finished => fail "the stream has ended"

/-- Steps until the stream ends, at most `fuel` times from `p`; at a fault it gives the events
before it, and the fault. -/
def eventsFrom : Nat → Parser → Array Event → Array Event × Option SyntaxError
  | 0, _, events => (events, some { mark := {}, problem := "the stream does not end" })
  | fuel + 1, p, events =>
    match step.run p with
    | .ok (e, p) =>
      let events := events.push e
      if p.state = .finished then (events, none) else eventsFrom fuel p events
    | .error err => (events, some err)

end Parse

/-- The events of a token stream that `fault` ends, if the text is not YAML: the events before
the first fault, and that fault. -/
def Event.parse (tokens : Array Token) (fault : Option SyntaxError) :
    Array Event × Option SyntaxError :=
  Parse.eventsFrom (4 * tokens.size + 8) { tokens, fault } #[]

end TableDdl.Yaml
