-- How a command fails: a cause and the contexts it happened in, outermost first. The message is
-- the contexts and the cause's own wording joined by `: `.
import TableDdl.Config
import TableDdl.Translate

namespace TableDdl.Cli

/-- What made a command fail. -/
inductive Cause where
  | file (e : FileError)
  | translate (e : TranslateError)
  | template (e : Template.Error)
  | configParse
  | plain (message : String)
  deriving DecidableEq, Repr

/-- The wording of a cause. -/
def Cause.message : Cause → String
  | .file e => e.message
  | .translate e => e.message
  | .template e => e.message
  | .configParse => ConfigError.parseMessage
  | .plain m => m

/-- A failed command: the contexts, outermost first, and the cause. -/
structure Failure where
  context : List String := []
  cause : Cause
  deriving DecidableEq, Repr

/-- The contexts and the cause, joined by `: `. -/
def Failure.message (f : Failure) : String :=
  ": ".intercalate (f.context ++ [f.cause.message])

section

variable {m : Type → Type} [Monad m] {α : Type}

/-- The same computation, failing inside one more context. -/
def within (ctx : String) (x : ExceptT Failure m α) : ExceptT Failure m α :=
  x.adapt fun f => { f with context := ctx :: f.context }

/-- A file fault as a failure. -/
def ofFile (x : ExceptT FileError m α) : ExceptT Failure m α :=
  x.adapt fun e => { cause := .file e }

/-- A configuration fault as a failure. -/
def ofConfig (x : ExceptT ConfigError m α) : ExceptT Failure m α :=
  x.adapt fun
    | .file e => { cause := .file e }
    | .parse => { cause := .configParse }

/-- A fault of translating, as a failure. -/
def ofTranslate (x : ExceptT TranslateError m α) : ExceptT Failure m α :=
  x.adapt fun e => { cause := .translate e }

/-- A template fault as a failure. -/
def ofTemplate (x : ExceptT Template.Error m α) : ExceptT Failure m α :=
  x.adapt fun e => { cause := .template e }

/-- Fails with a message. -/
def failWith (msg : String) : ExceptT Failure m α :=
  throw { cause := .plain msg }

end

end TableDdl.Cli
