-- YAML tokens, the units that scanning cuts text into, and the character classes of YAML text.

namespace TableDdl.Yaml

/-- A place in the text: the index of a character, its line and its column, all from zero. -/
structure Mark where
  index : Nat := 0
  line : Nat := 0
  column : Nat := 0
  deriving Inhabited, Repr, DecidableEq

/-- How a scalar is written. -/
inductive ScalarStyle where
  | plain
  | singleQuoted
  | doubleQuoted
  | literal
  | folded
  deriving Inhabited, Repr, DecidableEq

/-- What a token is. -/
inductive TokenKind where
  | streamStart
  | streamEnd
  /-- `%YAML major.minor`. -/
  | versionDirective (major minor : Nat)
  /-- `%TAG handle uri`; a directive of another name reads as a tag directive of two empty
  texts. -/
  | tagDirective (handle uri : String)
  | documentStart
  | documentEnd
  | blockSequenceStart
  | blockMappingStart
  | blockEnd
  | flowSequenceStart
  | flowSequenceEnd
  | flowMappingStart
  | flowMappingEnd
  | blockEntry
  | flowEntry
  | key
  | value
  | alias (name : String)
  | anchor (name : String)
  | tag (handle suffix : String)
  | scalar (style : ScalarStyle) (text : String)
  deriving Inhabited, Repr

/-- A token and where it starts. -/
structure Token where
  mark : Mark
  kind : TokenKind
  deriving Inhabited, Repr

/-- Why text is not YAML: where reading stopped and what was wrong there. -/
structure SyntaxError where
  mark : Mark
  problem : String
  deriving Inhabited, Repr

/-! ## Character classes -/

/-- The end of the text. -/
def isEnd (c : Char) : Bool := c = '\x00'

/-- A line break: line feed or carriage return. -/
def isBreak (c : Char) : Bool := c = '\n' || c = '\r'

/-- A line break or the end. -/
def isBreakOrEnd (c : Char) : Bool := isBreak c || isEnd c

/-- A blank: space or tab. -/
def isBlank (c : Char) : Bool := c = ' ' || c = '\t'

/-- A blank, a line break or the end. -/
def isBlankOrEnd (c : Char) : Bool := isBlank c || isBreakOrEnd c

/-- An ASCII digit. -/
def isDecimalDigit (c : Char) : Bool := '0' ≤ c && c ≤ '9'

/-- A character of a word: an ASCII letter or digit, `_` or `-`. -/
def isWordChar (c : Char) : Bool :=
  isDecimalDigit c || ('a' ≤ c && c ≤ 'z') || ('A' ≤ c && c ≤ 'Z') || c = '_' || c = '-'

/-- An ASCII hexadecimal digit. -/
def isHexDigit (c : Char) : Bool :=
  isDecimalDigit c || ('a' ≤ c && c ≤ 'f') || ('A' ≤ c && c ≤ 'F')

/-- The value of a hexadecimal digit. -/
def hexValue (c : Char) : Nat :=
  if 'a' ≤ c ∧ c ≤ 'f' then c.toNat - 87
  else if 'A' ≤ c ∧ c ≤ 'F' then c.toNat - 55
  else c.toNat - 48

/-- A flow indicator: `,`, `[`, `]`, `{` or `}`. -/
def isFlowIndicator (c : Char) : Bool :=
  c = ',' || c = '[' || c = ']' || c = '{' || c = '}'

/-- A character that a URI may hold. -/
def isUriChar (c : Char) : Bool :=
  isWordChar c || "#;/?:@&=+$,_.!~*\x27()[]%".contains c

/-- A character that a tag may hold: a URI character other than `!` and the flow indicators. -/
def isTagChar (c : Char) : Bool :=
  isUriChar c && !isFlowIndicator c && c ≠ '!'

/-- A character that is neither a line break, a blank nor a byte order mark. -/
def isNonSpace (c : Char) : Bool :=
  !isBreak c && c ≠ '\uFEFF' && !isBlank c

/-- A character that an anchor or alias name may hold. -/
def isAnchorChar (c : Char) : Bool :=
  isNonSpace c && !isFlowIndicator c && !isEnd c

end TableDdl.Yaml
