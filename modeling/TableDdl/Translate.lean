-- Translating a table description into SQL. Its `type` names the operation: a missing, null or
-- empty type is missing and `create` is the only known one, for which the description is normalised
-- and the dialect's CREATE TABLE generated.
import TableDdl.Dialect
import TableDdl.Table.Normalize
import TableDdl.Ddl.Postgres
import TableDdl.Ddl.Redshift

namespace TableDdl

/-- What a translator can do with a table description. -/
inductive Operation where
  | create
  deriving DecidableEq, Repr, Inhabited

/-- The name of an operation. -/
def Operation.name : Operation → String
  | .create => "create"

/-- A fault of translating. -/
inductive TranslateError where
  | missingOperation
  | unknownOperation (shown : String)
  | template (e : Template.Error)
  deriving DecidableEq, Repr

namespace TranslateError

/-- The wording of a fault; a template fault is worded as itself. -/
def message : TranslateError → String
  | .missingOperation => "Operation type required"
  | .unknownOperation shown => "Unknown operation type: " ++ shown
  | .template e => e.message

/-- The operation is missing. -/
def isMissingOperation : TranslateError → Bool
  | .missingOperation => true
  | _ => false

/-- The operation is unknown. -/
def isUnknownOperation : TranslateError → Bool
  | .unknownOperation _ => true
  | _ => false

/-- The index template failed. -/
def isTemplate : TranslateError → Bool
  | .template _ => true
  | _ => false

end TranslateError

/-- The operation a name stands for: the empty name is missing. -/
def Operation.parse (s : String) : Except TranslateError Operation :=
  if s = "create" then .ok .create
  else if s.isEmpty then .error .missingOperation
  else .error (.unknownOperation s)

/-- The operation a description asks for. -/
def operationOf (input : Json) : Except TranslateError Operation :=
  match input.get? "type" with
  | none => .error .missingOperation
  | some .null => .error .missingOperation
  | some (.str s) => Operation.parse s
  | some other => .error (.unknownOperation other.write)

/-- A translator, with the directory its index template comes from, if any. -/
structure Translator where
  templateDir : Option String := none
  deriving Inhabited

namespace Translator

variable {m : Type → Type} [Monad m]

/-- Every dialect knows every operation. -/
def supports (_tr : Translator) (_d : Dialect) (_op : Operation) : Bool :=
  true

/-- The SQL for a normalised table. -/
def generate (tr : Translator) (look : String → m Entry) (d : Dialect) (op : Operation)
    (t : Table) : ExceptT TranslateError m String :=
  match d, op with
  | .postgres, .create => (Ddl.createPostgres look tr.templateDir t).adapt .template
  | .redshift, .create => pure (Ddl.createRedshift t)

/-- The SQL for a table description. -/
def translate (tr : Translator) (look : String → m Entry) (d : Dialect) (input : Json) :
    ExceptT TranslateError m String := do
  let op ← Ddl.liftResult (operationOf input)
  tr.generate look d op (Table.ofJson input)

end Translator

/-- Translating with the bundled index template, which reads no file. -/
def translate (d : Dialect) (input : Json) : Except TranslateError String :=
  Id.run ((Translator.translate {} (fun _ => pure Entry.absent) d input).run)

end TableDdl
