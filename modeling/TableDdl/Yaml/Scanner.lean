-- The state of cutting YAML text into tokens, and the moves that all parts of the scanner share.
-- Each loop is bounded by the characters left, since each round consumes one or stops.
import TableDdl.Yaml.Token

namespace TableDdl.Yaml

/-- A place where a simple key may have started. -/
structure SimpleKey where
  /-- Whether a `:` may still make it a key. -/
  possible : Bool := false
  /-- Whether it must become a key: it stands at the indentation of its block mapping. -/
  required : Bool := false
  /-- The number of tokens before it, where its key token goes. -/
  tokenNumber : Nat := 0
  mark : Mark := {}
  deriving Inhabited

/-- An indentation that an open block collection saved: the column to go back to, and whether
leaving it closes a block. An indentation one column deeper than a mapping's, taken after a
value indicator, closes none. -/
structure Indent where
  column : Int
  closesBlock : Bool
  deriving Inhabited

/-- Inside a flow sequence, whether an implicit one-pair mapping has begun. -/
inductive ImplicitMapping where
  | possible
  | inside
  deriving DecidableEq, Inhabited

/-- The scanner's state. -/
structure Scanner where
  text : Array Char
  mark : Mark := {}
  tokens : Array Token := #[]
  streamStarted : Bool := false
  /-- Where a `:` right after a quoted scalar or a flow collection may be a value indicator. -/
  adjacentValueAt : Nat := 0
  simpleKeyAllowed : Bool := false
  /-- The simple key of each flow level, the innermost first. -/
  simpleKeys : List SimpleKey := []
  indent : Int := -1
  /-- The saved indentations, the latest first. -/
  indents : List Indent := []
  flowLevel : Nat := 0
  /-- Whether only blanks stand between the start of the line and here. -/
  leadingWhitespace : Bool := true
  flowMappingStarted : Bool := false
  implicitMappings : List ImplicitMapping := []
  deriving Inhabited

/-- Scanning steps: they change the state or fail. -/
abbrev ScanM := StateT Scanner (Except SyntaxError)

/-- Whether the latest saved indentation closes a block. -/
def Scanner.lastClosesBlock (s : Scanner) : Bool :=
  match s.indents with
  | i :: _ => i.closesBlock
  | [] => false

/-- The place one character further on the same line. -/
def Mark.advance (m : Mark) : Mark :=
  { m with index := m.index + 1, column := m.column + 1 }

/-- The place at the start of the next line, after a line feed. -/
def Mark.newline (m : Mark) : Mark :=
  { index := m.index + 1, line := m.line + 1, column := 0 }

namespace Scan

/-- Stops with a problem at the current place. -/
def fail {α : Type} (problem : String) : ScanM α := do
  throw { mark := (← get).mark, problem }

/-- The character `k` places ahead; past the end of the text it is NUL. -/
def peekAt (k : Nat) : ScanM Char := do
  let s ← get
  pure (s.text.getD (s.mark.index + k) '\x00')

/-- The current character. -/
def peek : ScanM Char := peekAt 0

/-- One more than the characters left: a bound for every loop over the text. -/
def budget : ScanM Nat := do
  let s ← get
  pure (s.text.size - s.mark.index + 1)

/-- Steps over a blank. -/
def skipBlank : ScanM Unit :=
  modify fun s => { s with mark := s.mark.advance }

/-- Steps over a character that is not a blank. -/
def skipNonBlank : ScanM Unit :=
  modify fun s => { s with mark := s.mark.advance, leadingWhitespace := false }

/-- Steps over `n` characters that are not blanks. -/
def skipNonBlanks (n : Nat) : ScanM Unit := do
  for _ in [0:n] do skipNonBlank

/-- Steps over a line feed to the start of the next line. -/
def skipNewline : ScanM Unit :=
  modify fun s => { s with mark := s.mark.newline, leadingWhitespace := true }

/-- Steps over a line break; `\r\n` is one. -/
def skipBreak : ScanM Unit := do
  let c ← peek
  if c = '\r' ∧ (← peekAt 1) = '\n' then
    skipBlank
    skipNewline
  else if isBreak c then skipNewline

/-- Steps over a line break and adds a line feed to `s`. -/
def readBreak (s : String) : ScanM String := do
  skipBreak
  pure (s.push '\n')

/-- Steps over the rest of a comment, up to the line break. -/
def skipComment : ScanM Unit := do
  for _ in [0:← budget] do
    if isBreakOrEnd (← peek) then break
    skipNonBlank

/-- Whether a document marker `---` (or `...` when `start` is false) stands here at the start of
a line, followed by a blank, a break or the end. -/
def atDocumentMarker (start : Bool) : ScanM Bool := do
  let s ← get
  let c := if start then '-' else '.'
  pure (s.mark.column = 0 ∧ (← peekAt 0) = c ∧ (← peekAt 1) = c ∧ (← peekAt 2) = c ∧
    isBlankOrEnd (← peekAt 3))

/-- Whether either document marker stands here. -/
def atDocumentIndicator : ScanM Bool := do
  pure ((← atDocumentMarker true) || (← atDocumentMarker false))

/-- Skips blanks (tabs too, when `tabs` holds) and a comment, up to the end of the line. A
comment must follow a blank. Returns whether a tab and whether a space was skipped. -/
def skipToLineEnd (tabs : Bool) : ScanM (Bool × Bool) := do
  let mut foundTab := false
  let mut foundSpace := false
  for _ in [0:← budget] do
    let c ← peek
    if c = ' ' then
      foundSpace := true
      skipBlank
    else if c = '\t' ∧ tabs then
      foundTab := true
      skipBlank
    else if c = '#' then
      if !foundTab ∧ !foundSpace then
        fail "comments must be separated from other tokens by whitespace"
      skipComment
    else break
  pure (foundTab, foundSpace)

/-- Adds a token at the end. -/
def push (m : Mark) (kind : TokenKind) : ScanM Unit :=
  modify fun s => { s with tokens := s.tokens.push { mark := m, kind } }

/-- Adds a token before the one at index `i`. -/
def insertAt (i : Nat) (m : Mark) (kind : TokenKind) : ScanM Unit :=
  modify fun s => { s with tokens := s.tokens.insertIdxIfInBounds i { mark := m, kind } }

/-! ## Simple keys -/

/-- Lets a simple key start. -/
def allowSimpleKey : ScanM Unit :=
  modify fun s => { s with simpleKeyAllowed := true }

/-- Keeps a simple key from starting. -/
def disallowSimpleKey : ScanM Unit :=
  modify fun s => { s with simpleKeyAllowed := false }

/-- Records that a simple key may start here, when one may. -/
def saveSimpleKey : ScanM Unit := do
  let s ← get
  if s.simpleKeyAllowed then
    let required := s.flowLevel == 0 && s.indent == (s.mark.column : Int) && s.lastClosesBlock
    let key : SimpleKey :=
      { possible := true, required, tokenNumber := s.tokens.size, mark := s.mark }
    set { s with simpleKeys := key :: s.simpleKeys.tail }

/-- Gives up the simple key of this level; one that was required is a fault. -/
def removeSimpleKey : ScanM Unit := do
  let s ← get
  match s.simpleKeys with
  | k :: rest =>
    if k.possible ∧ k.required then fail "simple key expected"
    set { s with simpleKeys := { k with possible := false } :: rest }
  | [] => pure ()

/-- Gives up the simple keys that can no longer be keys: outside flow collections a key stays on
its line and within 1024 characters. A required one is a fault. -/
def staleSimpleKeys : ScanM Unit := do
  let s ← get
  if s.flowLevel = 0 then
    let stale (k : SimpleKey) : Bool :=
      k.possible && (k.mark.line < s.mark.line || k.mark.index + 1024 < s.mark.index)
    if s.simpleKeys.any (fun k => stale k && k.required) then fail "simple key expect ':'"
    let settle (k : SimpleKey) : SimpleKey := if stale k then { k with possible := false } else k
    set { s with simpleKeys := s.simpleKeys.map settle }

/-- Marks the innermost simple key as used. -/
def useSimpleKey : ScanM Unit :=
  modify fun s => match s.simpleKeys with
    | k :: rest => { s with simpleKeys := { k with possible := false } :: rest }
    | [] => s

/-! ## Indentation -/

/-- Opens a block collection at `column` when it is deeper than the current indentation, with
its start token at the end or, for a key found afterwards, at index `at?`. An indentation one
column deeper that closes no block is dropped first. Flow collections have no indentation. -/
def rollIndent (column : Nat) (at? : Option Nat) (kind : TokenKind) (m : Mark) : ScanM Unit := do
  let s ← get
  if s.flowLevel > 0 then return
  let s := if s.indent ≤ column then
      match s.indents with
      | i :: rest => if i.closesBlock then s else { s with indent := i.column, indents := rest }
      | [] => s
    else s
  if s.indent < column then
    let saved : Indent := { column := s.indent, closesBlock := true }
    let s := { s with indents := saved :: s.indents, indent := column }
    let token : Token := { mark := m, kind }
    match at? with
    | some i => set { s with tokens := s.tokens.insertIdxIfInBounds i token }
    | none => set { s with tokens := s.tokens.push token }
  else set s

/-- Leaves saved indentations while they are deeper than `column`, with a block-end token for
each that closes a block. -/
def unrollFrom (column : Int) (m : Mark) :
    Int → List Indent → Array Token → Int × List Indent × Array Token
  | indent, i :: rest, tokens =>
    if indent > column then
      unrollFrom column m i.column rest
        (if i.closesBlock then tokens.push { mark := m, kind := .blockEnd } else tokens)
    else (indent, i :: rest, tokens)
  | indent, [], tokens => (indent, [], tokens)

/-- Closes the block collections deeper than `column`. -/
def unrollIndent (column : Int) : ScanM Unit :=
  modify fun s =>
    if s.flowLevel > 0 then s
    else
      let (indent, indents, tokens) := unrollFrom column s.mark s.indent s.indents s.tokens
      { s with indent, indents, tokens }

/-- Goes one column deeper without opening a block, after a value or entry indicator. -/
def rollOneColumn : ScanM Unit :=
  modify fun s =>
    if s.flowLevel = 0 ∧ s.lastClosesBlock then
      let saved : Indent := { column := s.indent, closesBlock := false }
      { s with indents := saved :: s.indents, indent := s.indent + 1 }
    else s

/-- Leaves the indentations that close no block. -/
def dropOpenColumns : Int → List Indent → Int × List Indent
  | indent, i :: rest => if i.closesBlock then (indent, i :: rest) else dropOpenColumns i.column rest
  | indent, [] => (indent, [])

/-- Leaves the latest indentations that close no block. -/
def unrollOpenColumns : ScanM Unit :=
  modify fun s =>
    let (indent, indents) := dropOpenColumns s.indent s.indents
    { s with indent, indents }

/-! ## Between tokens -/

/-- Skips blanks, line breaks and comments up to the next token. After a line break outside flow
collections a simple key may start. A tab in the indentation of a block is a fault unless the
rest of its line is empty. -/
def skipToNextToken : ScanM Unit := do
  for _ in [0:← budget] do
    let s ← get
    let c ← peek
    if c = '\t' ∧ !s.indents.isEmpty ∧ s.leadingWhitespace ∧ (s.mark.column : Int) < s.indent then
      let _ ← skipToLineEnd true
      if !isBreakOrEnd (← peek) then fail "tabs disallowed within this context (block indentation)"
    else if isBlank c then skipBlank
    else if isBreak c then
      skipBreak
      if s.flowLevel = 0 then allowSimpleKey
    else if c = '#' then skipComment
    else break

/-- Skips spaces, line breaks and comments, of which there must be at least a space or a
break. -/
def skipSeparation : ScanM Unit := do
  let mut found := false
  for _ in [0:← budget] do
    let c ← peek
    if c = ' ' then
      found := true
      skipBlank
    else if isBreak c then
      found := true
      skipBreak
    else if c = '#' then skipComment
    else break
  if !found then fail "expected whitespace"

end Scan

end TableDdl.Yaml
