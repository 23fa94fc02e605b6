-- The command line of `stratum-ddl` as data: its options, positional arguments and subcommands,
-- with the texts its help shows.

namespace TableDdl.Cli

/-- What an option does when it is given. -/
inductive Action where
  /-- A switch without a value, given at most once. -/
  | switch
  /-- Takes one value and is given at most once; a path value may not be empty. -/
  | value (valueName : String) (path : Bool)
  /-- Takes one value each time it is given. -/
  | values (valueName : String)
  /-- Shows the help. -/
  | help
  /-- Shows the version. -/
  | version
  deriving DecidableEq, Repr

/-- An option: its long name, its one-letter name if any, what it does, its help and its place
in the help's list. -/
structure Opt where
  long : String
  short : Option Char := none
  action : Action
  help : String
  longHelp : Option String := none
  order : Nat := 999
  deriving DecidableEq, Repr

/-- A positional argument. -/
structure Positional where
  valueName : String
  help : String
  required : Bool := true
  many : Bool := false
  path : Bool := true
  deriving DecidableEq, Repr

/-- A command: its name, how usage lines and the version line name it, its texts, and its
arguments. -/
structure Command where
  name : String
  usageName : String
  displayName : String
  about : String
  longAbout : Option String := none
  afterHelp : Option String := none
  positionals : List Positional := []
  options : List Opt := []
  /-- The long names of the options that, with the positionals, make up the command's argument
  group; a command without them has no group. -/
  groupOptions : List String := []
  needsSubcommand : Bool := false
  deriving DecidableEq, Repr

/-- The name of the program. -/
def programName : String := "stratum-ddl"

/-- The version of the program. -/
def programVersion : String := "0.1.0"

/-- The value an option takes, as help and messages name it. -/
def Action.suffix : Action → String
  | .value n _ | .values n => " <" ++ n ++ ">"
  | _ => ""

/-- Whether the option takes a value. -/
def Action.takesValue : Action → Bool
  | .value .. | .values _ => true
  | _ => false

/-- The option as messages name it: `--dialect <DIALECT>`. -/
def Opt.display (o : Opt) : String :=
  "--" ++ o.long ++ o.action.suffix

/-- The option as the help lists it: `-d, --dialect <DIALECT>`, or four blanks in place of a
missing one-letter name. -/
def Opt.spec (o : Opt) : String :=
  (match o.short with
    | some c => "-" ++ c.toString ++ ", "
    | none => "    ") ++ o.display

/-- The positional as help and messages name it: `<INPUT>`, or `[COMMAND]...`. -/
def Positional.display (p : Positional) : String :=
  (if p.required then "<" ++ p.valueName ++ ">" else "[" ++ p.valueName ++ "]") ++
    (if p.many then "..." else "")

/-- The verbose switch, taken by every command. -/
def verboseOpt : Opt :=
  { long := "verbose", short := some 'v', action := .switch, help := "Enable verbose output",
    order := 0 }

/-- The switch that turns colour off, taken by every command. -/
def noColorOpt : Opt :=
  { long := "no-color", action := .switch, help := "Disable colored output", order := 1 }

/-- The help option; a command with a long help tells the two apart. -/
def helpOpt (hasLong : Bool) : Opt :=
  if hasLong then
    { long := "help", short := some 'h', action := .help,
      help := "Print help (see more with '--help')",
      longHelp := some "Print help (see a summary with '-h')" }
  else { long := "help", short := some 'h', action := .help, help := "Print help" }

/-- The version option. -/
def versionOpt : Opt :=
  { long := "version", short := some 'V', action := .version, help := "Print version" }

/-- A command's own options, then the global switches, the help and the version. -/
def withCommon (hasLong : Bool) (own : List Opt) : List Opt :=
  own ++ [verboseOpt, noColorOpt, helpOpt hasLong, versionOpt]

/-- The program itself. -/
def topCommand : Command where
  name := programName
  usageName := programName
  displayName := programName
  about := "Translate table descriptions into dialect-specific DDL"
  longAbout := some ("Stratum DDL - Table description to SQL translator\n\n" ++
    "Translates declarative table descriptions (JSON or YAML) into\n" ++
    "CREATE TABLE statements for a target SQL dialect.\n\n" ++
    "Stratum DDL helps you:\n" ++
    "  • Keep table definitions as data and generate DDL from them\n" ++
    "  • Emit idempotent guarded CREATE INDEX blocks for PostgreSQL\n" ++
    "  • Emit column encodings and distribution/sort keys for Redshift\n" ++
    "  • Render your own SQL templates with safely quoted parameters\n\n" ++
    "Supported dialects: postgres, redshift")
  afterHelp := some ("GETTING STARTED:\n" ++
    "  1. Describe a table:              albums.json with type, schema, table, columns\n" ++
    "  2. Translate for PostgreSQL:      stratum-ddl translate albums.json\n" ++
    "  3. Translate for Redshift:        stratum-ddl translate albums.json --dialect redshift\n" ++
    "  4. Render a custom template:      stratum-ddl render grant.sql --param role=reader\n\n" ++
    "For detailed help on each command, use: stratum-ddl <command> --help")
  options := [verboseOpt, noColorOpt, helpOpt true, versionOpt]
  groupOptions := ["verbose", "no-color"]
  needsSubcommand := true

/-- The `translate` command. -/
def translateCommand : Command where
  name := "translate"
  usageName := programName ++ " translate"
  displayName := programName ++ "-translate"
  about := "Translate a table description into SQL"
  longAbout := some ("Translate a table description into SQL\n\n" ++
    "Reads a JSON or YAML table description and prints the DDL for the selected dialect. " ++
    "The `type` field selects the operation.\n\n" ++
    "EXAMPLES: # Translate using the configured dialect stratum-ddl translate albums.json\n\n" ++
    "# Translate for Redshift and write to a file stratum-ddl translate albums.yaml " ++
    "--dialect redshift --output albums.sql\n\n" ++
    "# Input without a type field stratum-ddl translate albums.json --operation create")
  positionals := [
    { valueName := "INPUT", help := "Table description file (.json, .yaml, .yml)" }]
  options := withCommon true [
    { long := "config", short := some 'c', action := .value "FILE" true, order := 0,
      help := "Path to configuration file (default: .stratum-ddl.yaml if present)" },
    { long := "dialect", short := some 'd', action := .value "DIALECT" false, order := 1,
      help := "SQL dialect (postgres, redshift)" },
    { long := "operation", action := .value "TYPE" false, order := 2,
      help := "Operation type used when the input has no `type` field" },
    { long := "template-dir", action := .value "DIR" true, order := 3,
      help := "Directory containing create-index.sql" },
    { long := "output", short := some 'o', action := .value "FILE" true, order := 4,
      help := "Write the SQL to a file instead of stdout" }]
  groupOptions := ["config", "dialect", "operation", "template-dir", "output"]

/-- The `render` command. -/
def renderCommand : Command where
  name := "render"
  usageName := programName ++ " render"
  displayName := programName ++ "-render"
  about := "Render a SQL template with named parameters"
  longAbout := some ("Render a SQL template with named parameters\n\n" ++
    "Placeholders: %I:name (identifier), %L:name (literal), %s:name (raw), " ++
    "%F:name (include name.sql from the same directory).\n\n" ++
    "EXAMPLES: # Parameters from a file stratum-ddl render create-index.sql " ++
    "--params index.json\n\n" ++
    "# Parameters on the command line stratum-ddl render grant.sql " ++
    "--param schema=music --param role=reader")
  positionals := [{ valueName := "TEMPLATE", help := "Template file" }]
  options := withCommon true [
    { long := "params", short := some 'p', action := .value "FILE" true, order := 0,
      help := "Parameter file (.json, .yaml, .yml) containing a mapping" },
    { long := "param", action := .values "KEY=VALUE", order := 1,
      help := "Parameter as key=value (overrides the parameter file)" },
    { long := "output", short := some 'o', action := .value "FILE" true, order := 2,
      help := "Write the SQL to a file instead of stdout" }]
  groupOptions := ["params", "param", "output"]

/-- The `help` command, which shows the help of the commands it names. -/
def helpCommand : Command where
  name := "help"
  usageName := programName ++ " help"
  displayName := programName ++ "-help"
  about := "Print this message or the help of the given subcommand(s)"
  positionals := [
    { valueName := "COMMAND", help := "Print help for the subcommand(s)", required := false,
      many := true, path := false }]

/-- The subcommands of a command. -/
def subcommandsOf (c : Command) : List Command :=
  if c.name = programName then [translateCommand, renderCommand, helpCommand] else []

/-- The option with a long name. -/
def Command.findLong (c : Command) (name : String) : Option Opt :=
  c.options.find? (·.long == name)

/-- The option with a one-letter name. -/
def Command.findShort (c : Command) (ch : Char) : Option Opt :=
  c.options.find? (·.short == some ch)

end TableDdl.Cli
