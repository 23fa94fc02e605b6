-- Scanning the three kinds of scalars, plain, quoted and block: line breaks fold, escapes are
-- applied, and a block scalar's chomping indicator settles its final line breaks.
import TableDdl.Yaml.Scanner

namespace TableDdl.Yaml

namespace Scan

/-- Whether the current character may go on in a plain scalar: not a `:` before a blank (or,
in flow collections, before a flow indicator), and in flow collections not a flow
indicator. -/
def plainMayContinue : ScanM Bool := do
  let s ← get
  let c ← peek
  let n ← peekAt 1
  if c = ':' ∧ (isBlankOrEnd n ∨ (s.flowLevel > 0 ∧ isFlowIndicator n)) then pure false
  else if s.flowLevel > 0 ∧ isFlowIndicator c then pure false
  else pure true

/-- Folds the line breaks before more text: a single break becomes a space, and further ones
stay as line feeds; with no break (`leadingBreak` empty) they are joined as they are. -/
def foldBreaks (text leadingBreak trailingBreaks : String) : String :=
  if leadingBreak.isEmpty then text ++ trailingBreaks
  else if trailingBreaks.isEmpty then text.push ' '
  else text ++ trailingBreaks

/-- Scans a plain scalar. -/
def plainScalar : ScanM Token := do
  unrollOpenColumns
  let s ← get
  let indent := s.indent + 1
  let start := s.mark
  if s.flowLevel > 0 ∧ (start.column : Int) < indent then
    fail "invalid indentation in flow construct"
  let mut text := ""
  let mut leadingBreak := ""
  let mut trailingBreaks := ""
  let mut whitespaces := ""
  for _ in [0:← budget] do
    if (← atDocumentIndicator) || (← peek) = '#' then break
    let s ← get
    let c ← peek
    if s.flowLevel > 0 ∧ c = '-' ∧ isFlowIndicator (← peekAt 1) then
      fail "plain scalar cannot start with '-' followed by ,[]\x7b\x7d"
    if !isBlankOrEnd c && (← plainMayContinue) then
      if s.leadingWhitespace then
        text := foldBreaks text leadingBreak trailingBreaks
        leadingBreak := ""
        trailingBreaks := ""
        modify fun s => { s with leadingWhitespace := false }
      else
        text := text ++ whitespaces
        whitespaces := ""
      text := text.push c
      skipNonBlank
      for _ in [0:← budget] do
        let c ← peek
        if isBlankOrEnd c || !(← plainMayContinue) then break
        text := text.push c
        skipNonBlank
    let c ← peek
    if !(isBlank c || isBreak c) then break
    for _ in [0:← budget] do
      let c ← peek
      if !(isBlank c || isBreak c) then break
      let s ← get
      if isBlank c then
        if !s.leadingWhitespace then
          whitespaces := whitespaces.push c
          skipBlank
        else if (s.mark.column : Int) < indent ∧ c = '\t' then
          let _ ← skipToLineEnd true
          if !isBreakOrEnd (← peek) then fail "while scanning a plain scalar, found a tab"
        else skipBlank
      else if s.leadingWhitespace then
        trailingBreaks ← readBreak trailingBreaks
      else
        whitespaces := ""
        leadingBreak ← readBreak leadingBreak
        modify fun s => { s with leadingWhitespace := true }
    let s ← get
    if s.flowLevel = 0 ∧ (s.mark.column : Int) < indent then break
  if (← get).leadingWhitespace then allowSimpleKey
  pure { mark := start, kind := .scalar .plain text }

/-- The character a one-letter escape stands for. -/
def escapedChar? : Char → Option Char
  | '0' => some '\x00'
  | 'a' => some '\x07'
  | 'b' => some '\x08'
  | 't' => some '\t'
  | '\t' => some '\t'
  | 'n' => some '\n'
  | 'v' => some '\x0b'
  | 'f' => some '\x0c'
  | 'r' => some '\r'
  | 'e' => some '\x1b'
  | ' ' => some ' '
  | '"' => some '"'
  | '/' => some '/'
  | '\\' => some '\\'
  | 'N' => some '\u0085'
  | '_' => some '\u00A0'
  | 'L' => some '\u2028'
  | 'P' => some '\u2029'
  | _ => none

/-- The number of hexadecimal digits after `x`, `u` and `U`. -/
def escapeWidth : Char → Nat
  | 'x' => 2
  | 'u' => 4
  | 'U' => 8
  | _ => 0

/-- Reads an escape in a double-quoted scalar, from its backslash. -/
def escape : ScanM Char := do
  let n ← peekAt 1
  let width := escapeWidth n
  match escapedChar? n with
  | some c =>
    skipNonBlanks 2
    pure c
  | none =>
    if width = 0 then fail "while parsing a quoted scalar, found unknown escape character"
    skipNonBlanks 2
    let mut code := 0
    for k in [0:width] do
      let d ← peekAt k
      if !isHexDigit d then
        fail "while parsing a quoted scalar, did not find expected hexadecimal number"
      code := code * 16 + hexValue d
    if code ≥ 0xD800 ∧ code ≤ 0xDFFF ∨ code > 0x10FFFF then
      fail "while parsing a quoted scalar, found invalid Unicode character escape code"
    skipNonBlanks width
    pure (Char.ofNat code)

/-- Reads the characters of a quoted scalar up to a blank, a break, the end or the closing
quote. Returns the text and whether an escaped line break ended the run. -/
def quotedRun (single : Bool) (text : String) : ScanM (String × Bool) := do
  let mut text := text
  for _ in [0:← budget] do
    let c ← peek
    if isBlankOrEnd c then break
    let n ← peekAt 1
    if single ∧ c = '\'' ∧ n = '\'' then
      text := text.push '\''
      skipNonBlanks 2
    else if single ∧ c = '\'' then break
    else if !single ∧ c = '"' then break
    else if !single ∧ c = '\\' ∧ isBreak n then
      skipNonBlank
      skipBreak
      return (text, true)
    else if !single ∧ c = '\\' then
      text := text.push (← escape)
    else
      text := text.push c
      skipNonBlank
  pure (text, false)

/-- Scans a single-quoted (`single`) or double-quoted scalar. -/
def quotedScalar (single : Bool) : ScanM Token := do
  let start := (← get).mark
  let mut text := ""
  let mut leadingBreak := ""
  let mut trailingBreaks := ""
  let mut whitespaces := ""
  skipNonBlank
  for _ in [0:← budget] do
    if ← atDocumentIndicator then
      fail "while scanning a quoted scalar, found unexpected document indicator"
    if isEnd (← peek) then fail "while scanning a quoted scalar, found unexpected end of stream"
    let s ← get
    if (s.mark.column : Int) < s.indent then fail "invalid indentation in quoted scalar"
    let (run, escapedBreak) ← quotedRun single text
    text := run
    let mut leadingBlanks := escapedBreak
    let c ← peek
    if (single ∧ c = '\'') ∨ (!single ∧ c = '"') then break
    for _ in [0:← budget] do
      let c ← peek
      if !(isBlank c || isBreak c) then break
      if isBlank c then
        if leadingBlanks then
          let s ← get
          if c = '\t' ∧ (s.mark.column : Int) < s.indent then
            fail "tab cannot be used as indentation"
          skipBlank
        else
          whitespaces := whitespaces.push c
          skipBlank
      else if leadingBlanks then
        trailingBreaks ← readBreak trailingBreaks
      else
        whitespaces := ""
        leadingBreak ← readBreak leadingBreak
        leadingBlanks := true
    if leadingBlanks then
      text := foldBreaks text leadingBreak trailingBreaks
      leadingBreak := ""
      trailingBreaks := ""
    else
      text := text ++ whitespaces
      whitespaces := ""
  skipNonBlank
  let _ ← skipToLineEnd true
  let c ← peek
  let s ← get
  let fits := (s.flowLevel > 0 ∧ (c = ',' ∨ c = '}' ∨ c = ']')) ∨ isBreakOrEnd c ∨
    (c = ':' ∧ (s.flowLevel > 0 ∨ start.line = s.mark.line))
  if !fits then fail "invalid trailing content after double-quoted scalar"
  pure { mark := start, kind := .scalar (if single then .singleQuoted else .doubleQuoted) text }

/-- What a block scalar keeps of its final line breaks. -/
inductive Chomping where
  | strip
  | clip
  | keep
  deriving DecidableEq

/-- Skips the indentation of block scalar lines up to `indent` columns, and the empty lines,
whose breaks are added to `breaks`. -/
def skipBlockIndent (indent : Nat) (breaks : String) : ScanM String := do
  let mut breaks := breaks
  for _ in [0:← budget] do
    for _ in [0:← budget] do
      if (← get).mark.column < indent ∧ (← peek) = ' ' then skipBlank else break
    if isBreak (← peek) then breaks ← readBreak breaks else break
  pure breaks

/-- Skips the empty lines before the first line of a block scalar, and finds its indentation:
the deepest of those lines and the first one, and at least one more than the enclosing
block's. Only a literal scalar of the top level may stand at column 0. -/
def firstBlockIndent (literal : Bool) : ScanM (Nat × String) := do
  let mut deepest := 0
  let mut breaks := ""
  for _ in [0:← budget] do
    for _ in [0:← budget] do
      if (← peek) = ' ' then skipBlank else break
    let column := (← get).mark.column
    if column > deepest then deepest := column
    if isBreak (← peek) then breaks ← readBreak breaks else break
  let s ← get
  let indent := max deepest (s.indent + 1).toNat
  pure (if s.indent > 0 ∨ !literal then max indent 1 else indent, breaks)

/-- Adds the rest of the line to `text`. -/
def blockLine (text : String) : ScanM String := do
  let mut text := text
  for _ in [0:← budget] do
    let c ← peek
    if isBreakOrEnd c then break
    text := text.push c
    skipBlank
  pure text

/-- Reads the header of a block scalar after its indicator: chomping and indentation
indicators in either order, then blanks and a comment. -/
def blockHeader : ScanM (Chomping × Nat) := do
  let chompingOf (c : Char) : Chomping := if c = '+' then .keep else .strip
  let c ← peek
  let mut chomping := Chomping.clip
  let mut increment := 0
  if c = '+' ∨ c = '-' then
    chomping := chompingOf c
    skipNonBlank
    let d ← peek
    if isDecimalDigit d then
      if d = '0' then fail "found an indentation indicator equal to 0"
      increment := d.toNat - 48
      skipNonBlank
  else if isDecimalDigit c then
    if c = '0' then fail "found an indentation indicator equal to 0"
    increment := c.toNat - 48
    skipNonBlank
    let d ← peek
    if d = '+' ∨ d = '-' then
      chomping := chompingOf d
      skipNonBlank
  let _ ← skipToLineEnd true
  if !isBreakOrEnd (← peek) then fail "did not find expected comment or line break"
  pure (chomping, increment)

/-- Scans a literal (`literal`) or folded block scalar. -/
def blockScalar (literal : Bool) : ScanM Token := do
  let start := (← get).mark
  let style := if literal then ScalarStyle.literal else .folded
  skipNonBlank
  unrollOpenColumns
  let (chomping, increment) ← blockHeader
  let mut chompingBreak := ""
  if isBreak (← peek) then chompingBreak ← readBreak ""
  if (← peek) = '\t' then fail "a block scalar content cannot start with a tab"
  let s ← get
  let mut indent : Nat :=
    if increment = 0 then 0
    else if s.indent ≥ 0 then (s.indent + increment).toNat else increment
  let mut trailingBreaks := ""
  if indent = 0 then
    let (found, breaks) ← firstBlockIndent literal
    indent := found
    trailingBreaks := breaks
  else
    trailingBreaks ← skipBlockIndent indent ""
  if isEnd (← peek) then
    let s ← get
    let contents :=
      if chomping = .strip ∨ s.mark.line = start.line then ""
      else if chomping = .clip then chompingBreak
      else if trailingBreaks.isEmpty then chompingBreak
      else trailingBreaks
    return { mark := start, kind := .scalar style contents }
  let s ← get
  if s.mark.column < indent ∧ (s.mark.column : Int) > s.indent then
    fail "wrongly indented line in block scalar"
  let mut text := ""
  let mut leadingBreak := ""
  let mut leadingBlank := false
  for _ in [0:← budget] do
    if (← get).mark.column ≠ indent ∨ isEnd (← peek) then break
    if indent = 0 ∧ (← atDocumentIndicator) then break
    let c ← peek
    let trailingBlank := isBlank c
    if !literal ∧ !leadingBreak.isEmpty ∧ !leadingBlank ∧ !trailingBlank then
      text := text ++ trailingBreaks
      if trailingBreaks.isEmpty then text := text.push ' '
    else
      text := text ++ leadingBreak ++ trailingBreaks
    leadingBreak := ""
    trailingBreaks := ""
    leadingBlank := isBlank c
    text ← blockLine text
    if isEnd (← peek) then break
    leadingBreak ← readBreak leadingBreak
    trailingBreaks ← skipBlockIndent indent trailingBreaks
  if chomping ≠ .strip then
    text := text ++ leadingBreak
    if isEnd (← peek) ∧ (← get).mark.column ≥ max indent 1 then text := text.push '\n'
  if chomping = .keep then text := text ++ trailingBreaks
  pure { mark := start, kind := .scalar style text }

end Scan

end TableDdl.Yaml
