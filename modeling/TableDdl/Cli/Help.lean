-- The texts the command line shows: the short and the long help, the version line, usage lines
-- and the wording of usage errors. Each section of a help is aligned on its longest entry.
import TableDdl.Cli.Grammar

namespace TableDdl.Cli

/-- Text padded with blanks to a width. -/
def padTo (width : Nat) (s : String) : String :=
  s ++ String.ofList (List.replicate (width - s.length) ' ')

/-- The text without trailing blanks and line breaks. -/
def trimEnd (s : String) : String :=
  String.ofList (s.toList.reverse.dropWhile (fun c => c = ' ' ∨ c = '\n')).reverse

/-- Entries with their help on the same line, aligned two blanks after the longest. -/
def sameLineEntries (rows : List (String × String)) : String :=
  let width := rows.foldl (fun w r => max w r.1.length) 2
  "\n".intercalate (rows.map fun (spec, help) => "  " ++ padTo (width + 2) spec ++ help)

/-- Entries with their help on the next line, a blank line between them. -/
def nextLineEntries (rows : List (String × String)) : String :=
  "\n\n".intercalate (rows.map fun (spec, help) => "  " ++ spec ++ "\n          " ++ help)

/-- The key an option is listed by, after its place. -/
def Opt.sortKey (o : Opt) : String :=
  match o.short with
  | some c => c.toLower.toString ++ (if c.isLower then "0" else "1")
  | none => o.long

/-- Whether one option is listed before another. -/
def Opt.listedBefore (a b : Opt) : Bool :=
  a.order < b.order || (a.order == b.order && decide (a.sortKey ≤ b.sortKey))

/-- Whether a command has a long help. -/
def Command.hasLongHelp (c : Command) : Bool :=
  c.longAbout.isSome

/-- Whether the usage line shows `[OPTIONS]`: the command has options besides help and
version. -/
def Command.needsOptionsTag (c : Command) : Bool :=
  c.options.any fun o => o.long != "help" && o.long != "version"

/-- The usage line a help shows. -/
def helpUsage (c : Command) : String :=
  " ".intercalate ([c.usageName] ++ (if c.needsOptionsTag then ["[OPTIONS]"] else []) ++
    c.positionals.map Positional.display ++ (if c.needsSubcommand then ["<COMMAND>"] else []))

/-- An argument that was given on the command line: an option, a positional by its place, or
the command's argument group, which counts as given with the first of its members. -/
inductive Slot where
  | opt (o : Opt)
  | pos (index : Nat) (p : Positional)
  | group
  deriving DecidableEq, Repr

/-- Whether a command has an argument group. -/
def Command.hasGroup (c : Command) : Bool :=
  !c.groupOptions.isEmpty

/-- Whether an argument belongs to the command's group: its positionals and the options it
names. -/
def Command.inGroup (c : Command) : Slot → Bool
  | .opt o => c.groupOptions.contains o.long
  | .pos _ _ => c.hasGroup
  | .group => false

/-- The group as usage lines show it: its members between `<` and `>`, split by `|`, a
positional by its bare name and an option with its value. -/
def Command.groupDisplay (c : Command) : String :=
  let opts := c.groupOptions.filterMap fun l => (c.findLong l).map Opt.display
  "<" ++ "|".intercalate (c.positionals.map (·.valueName) ++ opts) ++ ">"

/-- The usage line of an error once some arguments were given: those options, the group if it
is among them (in place of its members), the required and the given positionals, and
`<COMMAND>` if a subcommand is needed. With nothing given it is the help's usage line. -/
def errorUsage (c : Command) (given : List Slot) : String :=
  if given.isEmpty then helpUsage c
  else
    let grouped := given.contains .group
    let shown (s : Slot) : Bool := !(grouped && c.inGroup s)
    let opts := (given.filterMap fun s => match s with
      | .opt o => if shown s then some o.display else none
      | _ => none).eraseDups
    let groups := if grouped then [c.groupDisplay] else []
    let places := c.positionals.zipIdx.filterMap fun (p, i) =>
      if shown (.pos i p) && (p.required || given.contains (.pos i p)) then some p.display
      else none
    " ".intercalate ([c.usageName] ++ opts ++ groups ++ places ++
      (if c.needsSubcommand then ["<COMMAND>"] else []))

/-- The help of a command, long or short; `subs` are its subcommands. -/
def helpText (c : Command) (long : Bool) : String :=
  let useLong := long && c.hasLongHelp
  let entries := fun (rows : List (String × String)) =>
    if useLong then nextLineEntries rows else sameLineEntries rows
  let subs := subcommandsOf c
  let commands := if subs.isEmpty then []
    else ["Commands:\n" ++ sameLineEntries (subs.map fun s => (s.name, s.about))]
  let arguments := if c.positionals.isEmpty then []
    else ["Arguments:\n" ++ entries (c.positionals.map fun p => (p.display, p.help))]
  let opts := c.options.mergeSort Opt.listedBefore
  let options := if opts.isEmpty then []
    else ["Options:\n" ++ entries (opts.map fun o =>
      (o.spec, if useLong then o.longHelp.getD o.help else o.help))]
  let about := if useLong then c.longAbout.getD c.about else c.about
  let after := match c.afterHelp with
    | some a => "\n\n" ++ a
    | none => ""
  trimEnd (about ++ "\n\nUsage: " ++ helpUsage c ++ "\n\n" ++
    "\n\n".intercalate (commands ++ arguments ++ options) ++ after) ++ "\n"

/-- The version line. -/
def versionText (c : Command) : String :=
  c.displayName ++ " " ++ programVersion ++ "\n"

/-- Where a usage error sends the reader for more: the help flag, else the `help` subcommand;
a command with neither gets no pointer. -/
def Command.helpHint (c : Command) : Option String :=
  if c.options.any (·.long == "help") then some "--help"
  else if (subcommandsOf c).isEmpty then none
  else some "help"

/-- A usage error: what went wrong, tips, a usage line, and where to find more help. -/
def usageError (what : String) (tips : List String) (usage : Option String)
    (hint : Option String := some "--help") : String :=
  "error: " ++ what ++
    (if tips.isEmpty then "" else "\n\n" ++ "\n".intercalate (tips.map ("  tip: " ++ ·))) ++
    (match usage with
      | some u => "\n\nUsage: " ++ u
      | none => "") ++
    (match hint with
      | some h => "\n\nFor more information, try '" ++ h ++ "'.\n"
      | none => "\n")

/-- An argument that is not known. -/
def unexpectedArgument (arg : String) : String :=
  "unexpected argument '" ++ arg ++ "' found"

/-- The tip for passing a flag-like text as a value. -/
def valueTip (arg : String) : String :=
  "to pass '" ++ arg ++ "' as a value, use '-- " ++ arg ++ "'"

/-- The tip naming similar arguments or subcommands. -/
def similarTip (kind : String) : List String → List String
  | [] => []
  | [one] => ["a similar " ++ kind ++ " exists: '" ++ one ++ "'"]
  | many => ["some similar " ++ kind ++ "s exist: " ++
      ", ".intercalate (many.map fun n => "'" ++ n ++ "'")]

/-- An option or positional given without a value. -/
def emptyValue (arg : String) : String :=
  usageError ("a value is required for '" ++ arg ++ "' but none was supplied") [] none

/-- An option given twice. -/
def givenTwice (c : Command) (arg : String) : String :=
  usageError ("the argument '" ++ arg ++ "' cannot be used multiple times") [] (some (helpUsage c))

/-- A value attached to an option that takes none. -/
def unwantedValue (c : Command) (given : List Slot) (arg value : String) : String :=
  usageError ("unexpected value '" ++ value ++ "' for '" ++ arg ++ "' found; no more were expected")
    [] (some (errorUsage c given))

/-- A word that names no subcommand. -/
def unknownSubcommand (c : Command) (word : String) (similar : List String) : String :=
  usageError ("unrecognized subcommand '" ++ word ++ "'") (similarTip "subcommand" similar)
    (some (helpUsage c)) c.helpHint

/-- A subcommand's name given after `--`, where it can only be a value. -/
def subcommandAfterEscape (c : Command) (word : String) : String :=
  usageError (unexpectedArgument word)
    ["subcommand '" ++ word ++ "' exists; to use it, remove the '--' before it"] (some (helpUsage c))

/-- Required positionals that were not given. -/
def missingArguments (c : Command) (given : List Slot) (missing : List (Nat × Positional)) :
    String :=
  usageError ("the following required arguments were not provided:" ++
      String.join (missing.map fun (_, p) => "\n  " ++ p.display))
    [] (some (errorUsage c (given ++ missing.map fun (i, p) => .pos i p)))

/-- A command that needs a subcommand was given none. -/
def missingSubcommand (c : Command) : String :=
  usageError ("'" ++ c.name ++ "' requires a subcommand but one was not provided\n  [subcommands: " ++
      ", ".intercalate ((subcommandsOf c).map (·.name)) ++ "]")
    [] (some (helpUsage c))

end TableDdl.Cli
