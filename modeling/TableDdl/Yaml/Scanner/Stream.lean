-- The token stream of YAML text: each step skips to the next token, closes the block collections
-- its column leaves, and reads one token. A fault stops the stream.
import TableDdl.Yaml.Scanner.Scalar
import TableDdl.Yaml.Scanner.Property

namespace TableDdl.Yaml

namespace Scan

/-- The deepest nesting of flow collections. -/
def maxFlowLevel : Nat := 255

/-- Starts the stream. -/
def streamStart : ScanM Unit :=
  modify fun s =>
    let tokens := s.tokens.push { mark := s.mark, kind := .streamStart }
    { s with
      indent := -1, streamStarted := true, simpleKeyAllowed := true, tokens
      simpleKeys := {} :: s.simpleKeys }

/-- Ends the stream: no flow collection may still be open, no simple key may still be required,
and every block is closed. -/
def streamEnd : ScanM Unit := do
  let s ← get
  if s.flowLevel > 0 then fail "the text ends inside a flow collection"
  if s.mark.column ≠ 0 then
    set { s with mark := { s.mark with column := 0, line := s.mark.line + 1 } }
  if s.simpleKeys.any (fun k => k.required && k.possible) then fail "simple key expected"
  modify fun s => { s with simpleKeys := s.simpleKeys.map fun k => { k with possible := false } }
  unrollIndent (-1)
  removeSimpleKey
  disallowSimpleKey
  push (← get).mark .streamEnd

/-- Reads a document marker, which closes every block. -/
def documentIndicator (kind : TokenKind) : ScanM Unit := do
  unrollIndent (-1)
  removeSimpleKey
  disallowSimpleKey
  let m := (← get).mark
  skipNonBlanks 3
  push m kind

/-- Reads a directive, which closes every block. -/
def fetchDirective : ScanM Unit := do
  unrollIndent (-1)
  removeSimpleKey
  disallowSimpleKey
  let t ← directive
  push t.mark t.kind

/-- Ends the implicit mapping of the innermost flow sequence, if one has begun. -/
def endImplicitMapping (m : Mark) : ScanM Unit := do
  let s ← get
  match s.implicitMappings with
  | .inside :: rest =>
    set { s with flowMappingStarted := false, implicitMappings := .possible :: rest }
    push m .flowMappingEnd
  | _ => pure ()

/-- Reads `[` or `{`. -/
def flowCollectionStart (kind : TokenKind) (mapping : Bool) : ScanM Unit := do
  saveSimpleKey
  rollOneColumn
  if (← get).flowLevel ≥ maxFlowLevel then fail "recursion limit exceeded"
  modify fun s => { s with simpleKeys := {} :: s.simpleKeys, flowLevel := s.flowLevel + 1 }
  allowSimpleKey
  let m := (← get).mark
  skipNonBlank
  if mapping then modify fun s => { s with flowMappingStarted := true }
  else modify fun s => { s with implicitMappings := .possible :: s.implicitMappings }
  let _ ← skipToLineEnd true
  push m kind

/-- Reads `]` or `}`. -/
def flowCollectionEnd (kind : TokenKind) (mapping : Bool) : ScanM Unit := do
  if (← get).flowLevel = 0 then fail "a flow collection ends that did not start"
  removeSimpleKey
  modify fun s => { s with flowLevel := s.flowLevel - 1, simpleKeys := s.simpleKeys.tail }
  disallowSimpleKey
  if !mapping then
    endImplicitMapping (← get).mark
    modify fun s => { s with implicitMappings := s.implicitMappings.tail }
  let m := (← get).mark
  skipNonBlank
  let _ ← skipToLineEnd true
  let s ← get
  if s.flowLevel > 0 then set { s with adjacentValueAt := s.mark.index }
  push m kind

/-- Reads `,`. -/
def flowEntry : ScanM Unit := do
  removeSimpleKey
  allowSimpleKey
  endImplicitMapping (← get).mark
  let m := (← get).mark
  skipNonBlank
  let _ ← skipToLineEnd true
  push m .flowEntry

/-- Reads a `-` entry of a block sequence. -/
def blockEntry : ScanM Unit := do
  let s ← get
  if s.flowLevel > 0 then fail "\"-\" is only valid inside a block"
  if !s.simpleKeyAllowed then fail "block sequence entries are not allowed in this context"
  match s.tokens.back? with
  | some { mark, kind := .anchor _ } | some { mark, kind := .tag _ _ } =>
    if s.mark.column = 0 ∧ mark.column = 0 ∧ s.indent > -1 then
      fail "invalid indentation for anchor"
  | _ => pure ()
  let m := s.mark
  skipNonBlank
  rollIndent m.column none .blockSequenceStart m
  let (foundTab, _) ← skipToLineEnd true
  if foundTab ∧ (← peek) = '-' ∧ isBlankOrEnd (← peekAt 1) then
    fail "'-' must be followed by a valid YAML whitespace"
  let _ ← skipToLineEnd false
  let c ← peek
  if isBreak c ∨ isFlowIndicator c then rollOneColumn
  removeSimpleKey
  allowSimpleKey
  push (← get).mark .blockEntry

/-- Reads `?`, the indicator of a complex key. -/
def complexKey : ScanM Unit := do
  let s ← get
  let m := s.mark
  if s.flowLevel = 0 then
    if !s.simpleKeyAllowed then fail "mapping keys are not allowed in this context"
    rollIndent m.column none .blockMappingStart m
  else modify fun s => { s with flowMappingStarted := true }
  removeSimpleKey
  if (← get).flowLevel = 0 then allowSimpleKey else disallowSimpleKey
  skipNonBlank
  skipSeparation
  if (← peek) = '\t' then fail "tabs disallowed in this context"
  push m .key

/-- Reads `:`, the value indicator. -/
def fetchValue : ScanM Unit := do
  let s ← get
  let key := s.simpleKeys.headD {}
  let start := s.mark
  let implicit := !s.implicitMappings.isEmpty && !s.flowMappingStarted
  if implicit then
    set { s with implicitMappings := .inside :: s.implicitMappings.tail }
  skipNonBlank
  if (← peek) = '\t' then
    let (_, foundSpace) ← skipToLineEnd true
    let c ← peek
    if !foundSpace ∧ (c = '-' ∨ isWordChar c) then
      fail "':' must be followed by a valid YAML whitespace"
  if key.possible then
    insertAt key.tokenNumber key.mark .key
    if implicit then
      if key.mark.line < start.line then fail "illegal placement of ':' indicator"
      insertAt key.tokenNumber (← get).mark .flowMappingStart
    rollIndent key.mark.column (some key.tokenNumber) .blockMappingStart start
    rollOneColumn
    useSimpleKey
    disallowSimpleKey
  else
    if implicit then push (← get).mark .flowMappingStart
    let s ← get
    if s.flowLevel = 0 then
      if !s.simpleKeyAllowed then fail "mapping values are not allowed in this context"
      rollIndent start.column none .blockMappingStart start
    rollOneColumn
    if (← get).flowLevel = 0 then allowSimpleKey else disallowSimpleKey
  push start .value

/-- Reads a token that a simple key may start with and that no key may follow directly. -/
def keyStart (scan : ScanM Token) : ScanM Unit := do
  saveSimpleKey
  disallowSimpleKey
  let t ← scan
  push t.mark t.kind

/-- Reads a quoted scalar; a `:` right after it may be a value indicator. -/
def fetchQuoted (single : Bool) : ScanM Unit := do
  saveSimpleKey
  disallowSimpleKey
  let t ← quotedScalar single
  skipToNextToken
  modify fun s => { s with adjacentValueAt := s.mark.index }
  push t.mark t.kind

/-- Reads a block scalar; a simple key may follow it. -/
def fetchBlockScalar (literal : Bool) : ScanM Unit := do
  saveSimpleKey
  allowSimpleKey
  let t ← blockScalar literal
  push t.mark t.kind

/-- Reads the next token, or ends the stream; returns whether the stream has ended. -/
def nextToken : ScanM Bool := do
  if !(← get).streamStarted then
    streamStart
    return false
  skipToNextToken
  staleSimpleKeys
  unrollIndent (← get).mark.column
  let c ← peek
  if isEnd c then
    streamEnd
    return true
  let s ← get
  if s.mark.column = 0 then
    if c = '%' then
      fetchDirective
      return false
    if ← atDocumentMarker true then
      documentIndicator .documentStart
      return false
    if ← atDocumentMarker false then
      documentIndicator .documentEnd
      let _ ← skipToLineEnd true
      if !isBreakOrEnd (← peek) then fail "invalid content after document end marker"
      return false
  if (s.mark.column : Int) < s.indent then fail "invalid indentation"
  let n ← peekAt 1
  match c with
  | '[' => flowCollectionStart .flowSequenceStart false
  | '{' => flowCollectionStart .flowMappingStart true
  | ']' => flowCollectionEnd .flowSequenceEnd false
  | '}' => flowCollectionEnd .flowMappingEnd true
  | ',' => flowEntry
  | '-' => if isBlankOrEnd n then blockEntry else keyStart plainScalar
  | '?' => if isBlankOrEnd n then complexKey else keyStart plainScalar
  | ':' =>
    if isBlankOrEnd n ∨ (s.flowLevel > 0 ∧ (isFlowIndicator n ∨ s.mark.index = s.adjacentValueAt))
    then fetchValue
    else keyStart plainScalar
  | '*' => keyStart (anchorOrAlias true)
  | '&' => keyStart (anchorOrAlias false)
  | '!' => keyStart tag
  | '|' => if s.flowLevel = 0 then fetchBlockScalar true else keyStart plainScalar
  | '>' => if s.flowLevel = 0 then fetchBlockScalar false else keyStart plainScalar
  | '\'' => fetchQuoted true
  | '"' => fetchQuoted false
  | '%' | '@' | '\x60' => fail "unexpected character"
  | _ => keyStart plainScalar
  pure false

/-- How many tokens are settled: all of them but those from the earliest simple key that a `:`
may still turn into a key, since a key token may yet go before it. -/
def settled (s : Scanner) : Nat :=
  s.simpleKeys.foldl (fun n k => if k.possible then min n k.tokenNumber else n) s.tokens.size

/-- Reads tokens until the stream ends, at most `fuel` steps from `s`, where `done` tokens are
settled. At a fault it gives the tokens settled before it, and the fault. -/
def tokensFrom : Nat → Scanner → Nat → Array Token × Option SyntaxError
  | 0, s, done => (s.tokens.extract 0 done, some { mark := s.mark, problem := "the stream does not end" })
  | fuel + 1, s, done =>
    match nextToken.run s with
    | .ok (true, s) => (s.tokens, none)
    | .ok (false, s) => tokensFrom fuel s (max done (settled s))
    | .error e => (s.tokens.extract 0 done, some e)

end Scan

/-- The tokens of YAML text, and the fault that ends them if it is not YAML: the tokens are those
that come before the fault and that nothing after it could change. A byte order mark that opens
the text is not part of it. -/
def Token.scan (text : String) : Array Token × Option SyntaxError :=
  let chars := match text.toList with
    | '\uFEFF' :: rest => rest.toArray
    | cs => cs.toArray
  Scan.tokensFrom (chars.size + 2) { text := chars } 0

end TableDdl.Yaml
