-- The program: a command line is read into a command, which runs on the files of a `Disk`. A
-- failed command exits with 1, a usage error with 2, and help, version and success with 0.
import TableDdl.Cli.Args

namespace TableDdl.Cli

/-- What a command line asks for. -/
inductive Invocation where
  | translate (r : TranslateRequest)
  | render (r : RenderRequest)
  | halt (h : Halt)

/-- The arguments of a subcommand, read and checked. -/
def readCommand (c : Command) (args : List String) : Except Halt Reading := do
  let (r, _) ← readArgs c args {}
  checkRequired c r

/-- What a command line asks for, in a project directory. -/
def invocationOf (project : String) (args : List String) : Invocation :=
  match readArgs topCommand args {} with
  | .error h => .halt h
  | .ok (r, none) =>
    if r.given.isEmpty then .halt .bare else .halt (.usage (missingSubcommand topCommand))
  | .ok (_, some (name, rest)) =>
    if name = translateCommand.name then
      match readCommand translateCommand rest with
      | .error h => .halt h
      | .ok r => .translate
        { project, input := (r.placeValue 0).getD "", configPath := r.valueOf "config",
          dialect := r.valueOf "dialect", operation := r.valueOf "operation",
          templateDir := r.valueOf "template-dir", output := r.valueOf "output" }
    else if name = renderCommand.name then
      match readCommand renderCommand rest with
      | .error h => .halt h
      | .ok r => .render
        { project, template := (r.placeValue 0).getD "", paramsFile := r.valueOf "params",
          params := r.valuesOf "param", output := r.valueOf "output" }
    else .halt (helpFor topCommand rest)

/-- What a run prints and its exit code. -/
structure Outcome where
  code : Nat
  stdout : String := ""
  stderr : String := ""
  deriving DecidableEq, Repr

/-- The outcome of a command's result. -/
def Outcome.ofResult : Except Failure String → Outcome
  | .ok s => { code := 0, stdout := if s.isEmpty then "" else s ++ "\n" }
  | .error f => { code := 1, stderr := "Error: " ++ f.message ++ "\n" }

/-- The outcome of a command line that ran no command. -/
def Outcome.ofHalt : Halt → Outcome
  | .help c long => { code := 0, stdout := helpText c long }
  | .version c => { code := 0, stdout := versionText c }
  | .usage text => { code := 2, stderr := text }
  | .bare => { code := 2, stderr := helpText topCommand false }

variable {m : Type → Type} [Monad m]

/-- Runs a command line in a project directory. -/
def run (disk : Disk m) (project : String) (args : List String) : m Outcome :=
  match invocationOf project args with
  | .translate r => Outcome.ofResult <$> (runTranslate disk r).run
  | .render r => Outcome.ofResult <$> (runRender disk r).run
  | .halt h => pure (Outcome.ofHalt h)

end TableDdl.Cli
