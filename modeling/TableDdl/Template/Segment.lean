-- Templates as segments: runs of text and placeholders, each placeholder a kind letter, an optional
-- name and the byte offset of its `%`. `sourceOf` writes segments back as template text.

namespace TableDdl.Template

/-- What a placeholder stands for. -/
inductive Kind where
  | ident
  | literal
  | raw
  | include
  deriving DecidableEq, Repr, Inhabited

/-- The letter after `%` that names a kind. -/
def Kind.letter : Kind → Char
  | .ident => 'I'
  | .literal => 'L'
  | .raw => 's'
  | .include => 'F'

/-- The kind a letter names. -/
def Kind.ofLetter? (c : Char) : Option Kind :=
  if c = 'I' then some .ident
  else if c = 'L' then some .literal
  else if c = 's' then some .raw
  else if c = 'F' then some .include
  else none

/-- A character that may appear in a placeholder name: an ASCII letter, digit or `_`. -/
def isNameChar (c : Char) : Bool :=
  ('a' ≤ c && c ≤ 'z') || ('A' ≤ c && c ≤ 'Z') || ('0' ≤ c && c ≤ '9') || c == '_'

/-- A placeholder: its kind, its name if it has one, and the byte offset of its `%`. -/
structure Placeholder where
  kind : Kind
  name : Option String
  position : Nat
  deriving DecidableEq, Repr, Inhabited

/-- A run of text or a placeholder. -/
inductive Segment where
  | text (s : String)
  | hole (p : Placeholder)
  deriving DecidableEq, Repr, Inhabited

/-- Text with each `%` written twice. -/
def escapePercent : List Char → List Char
  | [] => []
  | c :: cs => if c = '%' then '%' :: '%' :: escapePercent cs else c :: escapePercent cs

/-- How a placeholder is written: `%`, its letter, and `:name` when it has a name. -/
def Placeholder.toSource (p : Placeholder) : List Char :=
  '%' :: p.kind.letter :: (match p.name with
    | some n => ':' :: n.toList
    | none => [])

/-- How a segment is written. -/
def Segment.toSource : Segment → List Char
  | .text s => escapePercent s.toList
  | .hole p => p.toSource

/-- How segments are written, one after another. -/
def sourceOf (segs : List Segment) : List Char :=
  segs.flatMap Segment.toSource

/-- The placeholders among segments, in order. -/
def holes : List Segment → List Placeholder
  | [] => []
  | .text _ :: rest => holes rest
  | .hole p :: rest => p :: holes rest

end TableDdl.Template
