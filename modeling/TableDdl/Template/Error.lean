-- What can go wrong when a template is read, compiled or rendered, and how each fault is worded.

namespace TableDdl.Template

/-- A fault of a template. -/
inductive Error where
  /-- A `%` followed by a character that is no kind letter, or ending the text (`kind` empty). -/
  | unknownPlaceholder (kind : String) (position : Nat)
  /-- A named placeholder whose name the parameters do not have. -/
  | missingParameter (name : String)
  /-- A placeholder for which no positional argument is left. -/
  | missingPositional (index : Nat)
  /-- A placeholder without a name, in named rendering. -/
  | unnamedPlaceholder (position : Nat)
  /-- An identifier placeholder whose value holds a null. -/
  | nullIdentifier (position : Nat)
  /-- An include without a file name. -/
  | missingIncludeName (position : Nat)
  /-- An include in a template that was not read from a file. -/
  | includeWithoutBase (name : String)
  /-- An include inside an included file. -/
  | nestedInclude (name : String)
  /-- A template path that is not a regular file. -/
  | fileNotFound (path : String)
  /-- A template file that cannot be read as text. -/
  | fileRead (path : String) (cause : String)
  deriving DecidableEq, Repr, Inhabited

namespace Error

/-- The wording of a fault. -/
def message : Error → String
  | .unknownPlaceholder kind position =>
    "Unrecognized format: '%" ++ kind ++ "' at position " ++ toString position
  | .missingParameter name => "Missing parameter: " ++ name
  | .missingPositional index => "Missing positional argument #" ++ toString index
  | .unnamedPlaceholder position =>
    "Placeholder at position " ++ toString position ++ " has no name (required in named mode)"
  | .nullIdentifier position =>
    "SQL identifier cannot be null (placeholder at position " ++ toString position ++ ")"
  | .missingIncludeName position =>
    "File include at position " ++ toString position ++ " has no file name"
  | .includeWithoutBase name => "File include '%F:" ++ name ++ "' requires a file-based template"
  | .nestedInclude name => "Nested file include '%F:" ++ name ++ "' is not supported"
  | .fileNotFound path => "File not found: " ++ path
  | .fileRead path cause => "Failed to read template: " ++ path ++ " (cause: " ++ cause ++ ")"

/-- An unknown placeholder. -/
def isUnknownPlaceholder : Error → Bool
  | .unknownPlaceholder .. => true
  | _ => false

/-- A missing named or positional value. -/
def isMissingParameter : Error → Bool
  | .missingParameter _ | .missingPositional _ => true
  | _ => false

/-- A fault of an include. -/
def isInclude : Error → Bool
  | .missingIncludeName _ | .includeWithoutBase _ | .nestedInclude _ => true
  | _ => false

/-- A template file that is not there. -/
def isFileNotFound : Error → Bool
  | .fileNotFound _ => true
  | _ => false

end Error

end TableDdl.Template
