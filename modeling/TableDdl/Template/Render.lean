-- Rendering compiled templates, by position or by name. Named rendering looks every name up first
-- and then renders by position; every NUL character is removed from the text.
import TableDdl.Template.Scan
import TableDdl.Template.Value

namespace TableDdl

/-- A template ready to render. -/
structure Template where
  segments : List Template.Segment
  deriving Inhabited

namespace Template

/-- The placeholders, in order. -/
def placeholders (t : Template) : List Placeholder :=
  holes t.segments

/-- The names of the named placeholders, in order and with repeats. -/
def parameterNames (t : Template) : List String :=
  t.placeholders.filterMap (·.name)

/-- Compiles text read from no file: the first include is an error, of its missing name or of
having no directory to come from. -/
def compileText (segs : List Segment) : Except Error Template :=
  match segs.find? fun
      | .hole p => p.kind = .include
      | .text _ => false with
  | some (.hole p) =>
    match p.name with
    | none => .error (.missingIncludeName p.position)
    | some n => .error (.includeWithoutBase n)
  | _ => .ok ⟨segs⟩

/-- Reads and compiles template text that does not come from a file. -/
def ofText (text : String) : Except Error Template := do
  compileText (← scan text)

/-- One placeholder filled with one value. -/
def renderHole (p : Placeholder) (v : Value) : Except Error String :=
  match p.kind with
  | .ident =>
    match v.identifier? with
    | some s => .ok s
    | none => .error (.nullIdentifier p.position)
  | .literal => .ok v.templateLiteral
  | .raw => .ok v.raw
  | .include => .error (.includeWithoutBase (p.name.getD ""))

/-- Segments filled with arguments; `index` counts the placeholders already filled. -/
def renderSegments : List Segment → Nat → List Value → Except Error String
  | [], _, _ => .ok ""
  | .text s :: rest, index, args => do
    let r ← renderSegments rest index args
    pure (s ++ r)
  | .hole p :: rest, index, args =>
    match args with
    | [] => .error (.missingPositional index)
    | v :: vs => do
      let a ← renderHole p v
      let r ← renderSegments rest (index + 1) vs
      pure (a ++ r)

/-- Text without its NUL characters. -/
def dropNul (s : String) : String :=
  String.ofList (s.toList.filter (· ≠ '\x00'))

/-- Renders with positional arguments; extra arguments are ignored. -/
def render (t : Template) (args : List Value) : Except Error String :=
  (renderSegments t.segments 0 args).map dropNul

/-- The value of each placeholder, by name: the first placeholder without a name or with a name
that the parameters lack decides the error. -/
def resolve (t : Template) (params : Params) : Except Error (List Value) :=
  t.placeholders.mapM fun p =>
    match p.name with
    | none => .error (.unnamedPlaceholder p.position)
    | some n =>
      match params.get? n with
      | some v => .ok v
      | none => .error (.missingParameter n)

/-- Renders with named parameters. -/
def renderNamed (t : Template) (params : Params) : Except Error String := do
  t.render (← t.resolve params)

/-- Reads template text and renders it positionally. -/
def format (text : String) (args : List Value) : Except Error String := do
  (← ofText text).render args

/-- Reads template text and renders it with named parameters. -/
def formatNamed (text : String) (params : Params) : Except Error String := do
  (← ofText text).renderNamed params

end Template

end TableDdl
