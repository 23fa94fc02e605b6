-- Scanning node properties and directives: anchors, aliases, tags, and the `%YAML` and `%TAG`
-- directives.
import TableDdl.Yaml.Scanner

namespace TableDdl.Yaml

namespace Scan

/-- Scans an alias (`isAlias`) or an anchor. -/
def anchorOrAlias (isAlias : Bool) : ScanM Token := do
  let start := (← get).mark
  skipNonBlank
  let mut name := ""
  for _ in [0:← budget] do
    let c ← peek
    if !isAnchorChar c then break
    name := name.push c
    skipNonBlank
  if name.isEmpty then
    fail "while scanning an anchor or alias, did not find expected alphabetic or numeric character"
  pure { mark := start, kind := if isAlias then .alias name else .anchor name }

/-- The length of the leading byte's sequence, from its high bits. -/
def escapedWidth (octet : Nat) : Option Nat :=
  if octet / 128 = 0 then some 1
  else if octet / 32 = 6 then some 2
  else if octet / 16 = 14 then some 3
  else if octet / 8 = 30 then some 4
  else none

/-- Reads `%hh` escapes, the bytes of one character; the character's code is taken as the bytes
read as one big-endian number. -/
def uriEscape : ScanM Char := do
  let mut width := 0
  let mut code := 0
  for _ in [0:4] do
    let c ← peek
    let h ← peekAt 1
    let l ← peekAt 2
    if !(c = '%' ∧ isHexDigit h ∧ isHexDigit l) then
      fail "while parsing a tag, did not find URI escaped octet"
    let octet := hexValue h * 16 + hexValue l
    if width = 0 then
      match escapedWidth octet with
      | some w =>
        width := w
        code := octet
      | none => fail "while parsing a tag, found an incorrect leading UTF-8 octet"
    else
      if octet / 64 ≠ 2 then fail "while parsing a tag, found an incorrect trailing UTF-8 octet"
      code := code * 256 + octet
    skipNonBlanks 3
    width := width - 1
    if width = 0 then break
  if code ≥ 0xD800 ∧ code ≤ 0xDFFF ∨ code > 0x10FFFF then
    fail "while parsing a tag, found an invalid UTF-8 codepoint"
  pure (Char.ofNat code)

/-- Reads characters while `ok` holds of them, `%` escapes decoded. -/
def uriChars (ok : Char → Bool) (text : String) : ScanM String := do
  let mut text := text
  for _ in [0:← budget] do
    let c ← peek
    if !ok c then break
    if c = '%' then text := text.push (← uriEscape)
    else
      text := text.push c
      skipNonBlank
  pure text

/-- Reads a tag handle: `!`, then word characters, then `!` if one follows. In a directive the
handle must end in `!` unless it is `!` alone. -/
def tagHandle (directive : Bool) : ScanM String := do
  if (← peek) ≠ '!' then fail "while scanning a tag, did not find expected '!'"
  skipNonBlank
  let mut handle := "!"
  for _ in [0:← budget] do
    let c ← peek
    if !isWordChar c then break
    handle := handle.push c
    skipNonBlank
  if (← peek) = '!' then
    handle := handle.push '!'
    skipNonBlank
  else if directive ∧ handle ≠ "!" then
    fail "while parsing a tag directive, did not find expected '!'"
  pure handle

/-- Whether a handle is a named or secondary one, `!…!`. -/
def isNamedHandle (handle : String) : Bool :=
  handle.length ≥ 2 && handle.startsWith "!" && handle.endsWith "!"

/-- Scans a tag. -/
def tag : ScanM Token := do
  let start := (← get).mark
  let mut handle := ""
  let mut suffix := ""
  if (← peekAt 1) = '<' then
    skipNonBlanks 2
    suffix ← uriChars isUriChar ""
    if (← peek) ≠ '>' then
      fail "while scanning a verbatim tag, did not find the expected '>'"
    skipNonBlank
  else
    handle ← tagHandle false
    if isNamedHandle handle then
      suffix ← uriChars isTagChar ""
      if suffix.isEmpty then fail "while parsing a tag, did not find expected tag URI"
    else
      suffix ← uriChars isTagChar (String.ofList (handle.toList.drop 1))
      handle := "!"
      if suffix.isEmpty then
        handle := ""
        suffix := "!"
  let c ← peek
  if isBlankOrEnd c ∨ ((← get).flowLevel > 0 ∧ isFlowIndicator c) then
    pure { mark := start, kind := .tag handle suffix }
  else fail "while scanning a tag, did not find expected whitespace or line break"

/-- Reads the digits of a version number, at most nine. -/
def versionNumber : ScanM Nat := do
  let mut value := 0
  let mut length := 0
  for _ in [0:10] do
    let c ← peek
    if !isDecimalDigit c then break
    if length = 9 then fail "while scanning a YAML directive, found extremely long version number"
    length := length + 1
    value := value * 10 + (c.toNat - 48)
    skipNonBlank
  if length = 0 then fail "while scanning a YAML directive, did not find expected version number"
  pure value

/-- Skips blanks. -/
def skipBlanks : ScanM Unit := do
  for _ in [0:← budget] do
    if isBlank (← peek) then skipBlank else break

/-- Reads the prefix of a `%TAG` directive. -/
def tagPrefixText : ScanM String := do
  let c ← peek
  let first ←
    if c = '!' then do
      skipNonBlank
      pure "!"
    else if !isTagChar c then fail "invalid global tag character"
    else if c = '%' then pure (String.singleton (← uriEscape))
    else do
      skipNonBlank
      pure (String.singleton c)
  uriChars isUriChar first

/-- Scans a directive, from its `%`. -/
def directive : ScanM Token := do
  let start := (← get).mark
  skipNonBlank
  let mut name := ""
  for _ in [0:← budget] do
    let c ← peek
    if !isWordChar c then break
    name := name.push c
    skipNonBlank
  if name.isEmpty then fail "while scanning a directive, could not find expected directive name"
  if !isBlankOrEnd (← peek) then
    fail "while scanning a directive, found unexpected non-alphabetical character"
  let kind ←
    if name = "YAML" then do
      skipBlanks
      let major ← versionNumber
      if (← peek) ≠ '.' then
        fail "while scanning a YAML directive, did not find expected digit or '.' character"
      skipNonBlank
      let minor ← versionNumber
      pure (TokenKind.versionDirective major minor)
    else if name = "TAG" then do
      skipBlanks
      let handle ← tagHandle true
      skipBlanks
      let uri ← tagPrefixText
      if !isBlankOrEnd (← peek) then
        fail "while scanning TAG, did not find expected whitespace or line break"
      pure (TokenKind.tagDirective handle uri)
    else do
      for _ in [0:← budget] do
        if isBreakOrEnd (← peek) then break
        skipNonBlank
      pure (TokenKind.tagDirective "" "")
  let _ ← skipToLineEnd true
  if !isBreakOrEnd (← peek) then
    fail "while scanning a directive, did not find expected comment or line break"
  skipBreak
  pure { mark := start, kind }

end Scan

end TableDdl.Yaml
