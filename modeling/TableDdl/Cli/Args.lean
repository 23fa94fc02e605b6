-- Reading a command line into a command to run, or into the help, the version or a usage error.
-- Arguments are read left to right; the last one read is checked only once the next is read, and
-- a help or version option shows its text at once.
import TableDdl.Cli.Help
import TableDdl.Cli.Commands
import TableDdl.Text.Similarity

namespace TableDdl.Cli

/-- How reading a command line can end without a command to run. -/
inductive Halt where
  /-- Show a command's help, long or short. -/
  | help (c : Command) (long : Bool)
  /-- Show a command's version line. -/
  | version (c : Command)
  /-- A usage error, worded. -/
  | usage (text : String)
  /-- Nothing was given at all: the short help, as an error. -/
  | bare
  deriving DecidableEq, Repr

/-- What has been read of one command's arguments. -/
structure Reading where
  given : List (Slot × List String) := []
  pending : Option (Slot × List String) := none
  nextPlace : Nat := 0
  trailing : Bool := false
  deriving DecidableEq, Repr

namespace Reading

/-- The arguments given so far, in the order first given, the group included. -/
def slots (r : Reading) : List Slot := r.given.map (·.1)

/-- The arguments given so far, without the group. -/
def argSlots (r : Reading) : List Slot := r.slots.filter (· != .group)

/-- Whether an argument was given. -/
def has (r : Reading) (s : Slot) : Bool := r.given.any (·.1 == s)

/-- The reading with an argument's values added; the first member of the command's group to be
given brings the group in right after it. -/
def record (c : Command) (r : Reading) (s : Slot) (vals : List String) : Reading :=
  if r.has s then
    { r with given := r.given.map fun (t, vs) => if t == s then (t, vs ++ vals) else (t, vs) }
  else
    let given := r.given ++ [(s, vals)]
    { r with given := if c.inGroup s && !r.has .group then given ++ [(.group, [])] else given }

/-- The reading without an argument; the group stays. -/
def erase (r : Reading) (s : Slot) : Reading :=
  { r with given := r.given.filter (·.1 != s) }

/-- Whether the pending option still waits for its value. -/
def awaitsValue (r : Reading) : Bool :=
  match r.pending with
  | some (.opt _, []) => true
  | _ => false

/-- The values an option was given. -/
def valuesOf (r : Reading) (long : String) : List String :=
  (r.given.filterMap fun
    | (.opt o, vs) => if o.long == long then some vs else none
    | _ => none).flatten

/-- The last value an option was given. -/
def valueOf (r : Reading) (long : String) : Option String :=
  (r.valuesOf long).getLast?

/-- The value given for a positional. -/
def placeValue (r : Reading) (index : Nat) : Option String :=
  (r.given.findSome? fun
    | (.pos i _, vs) => if i == index then vs.head? else none
    | _ => none)

end Reading

variable (c : Command)

/-- Stores an argument and its values, checking them: the reading afterwards, and the fault if
there is one. A missing value leaves the reading as it was; an argument given twice is taken out;
an empty path is stored before it is found at fault. -/
def settle (r : Reading) (s : Slot) (vals : List String) : Reading × Option Halt :=
  let fault (text : String) : Option Halt := some (.usage text)
  match s with
  | .opt o =>
    match o.action with
    | .value _ path =>
      if vals.isEmpty then (r, fault (emptyValue o.display))
      else if r.has s then (r.erase s, fault (givenTwice c o.display))
      else if path && vals.any (·.isEmpty) then (r.record c s vals, fault (emptyValue o.display))
      else (r.record c s vals, none)
    | .values _ =>
      if vals.isEmpty then (r, fault (emptyValue o.display)) else (r.record c s vals, none)
    | _ =>
      if r.has s then (r.erase s, fault (givenTwice c o.display)) else (r.record c s vals, none)
  | .pos _ p =>
    if p.path && vals.any (·.isEmpty) then (r.record c s vals, fault (emptyValue p.display))
    else (r.record c s vals, none)
  | .group => (r, none)

/-- Stores an argument and its values, or stops at its fault. -/
def store (r : Reading) (s : Slot) (vals : List String) : Except Halt Reading :=
  match settle c r s vals with
  | (r, none) => .ok r
  | (_, some h) => .error h

/-- Settles the pending argument. -/
def settlePending (r : Reading) : Except Halt Reading :=
  match r.pending with
  | none => .ok r
  | some (s, vals) => store c { r with pending := none } s vals

/-- Settles the pending argument, keeping what settling did and dropping its fault. -/
def settleQuietly (r : Reading) : Reading :=
  match r.pending with
  | none => r
  | some (s, vals) => (settle c { r with pending := none } s vals).1

/-- An unknown `--name`: a similar option of this command is named, or else an option of a
subcommand named later on the line, or else how to pass it as a value. -/
def unknownLong (name : String) (rest : List String) (r : Reading) : Halt :=
  let arg := "--" ++ name
  match (Text.similarNames name (c.options.map (·.long))).getLast? with
  | some best =>
    let given := match c.findLong best with
      | some o => if r.has (.opt o) then r.argSlots else r.argSlots ++ [.opt o]
      | none => r.argSlots
    .usage (usageError (unexpectedArgument arg) (similarTip "argument" ["--" ++ best])
      (some (errorUsage c given)))
  | none =>
    let elsewhere := (subcommandsOf c).filterMap fun sub =>
      match (Text.similarNames name (sub.options.map (·.long))).getLast?, rest.idxOf? sub.name with
      | some best, some place => some (place, sub.name ++ " --" ++ best)
      | _, _ => none
    let pick := elsewhere.foldl (fun (acc : Option (Nat × String)) e =>
      match acc with
      | some a => if e.1 < a.1 then some e else some a
      | none => some e) none
    let tips := match pick with
      | some (_, s) => ["'" ++ s ++ "' exists"]
      | none => if !r.trailing && !c.positionals.isEmpty then [valueTip arg] else []
    .usage (usageError (unexpectedArgument arg) tips (some (errorUsage c r.argSlots)))

/-- Reads one `--name` or `--name=value` argument. -/
def readLong (body : String) (rest : List String) (r : Reading) : Except Halt Reading :=
  let (name, attached) := match body.toList.span (· ≠ '=') with
    | (n, []) => (String.ofList n, none)
    | (n, _ :: v) => (String.ofList n, some (String.ofList v))
  match c.findLong name with
  | none => .error (unknownLong c name rest (settleQuietly c r))
  | some o =>
    match o.action.takesValue, attached with
    | true, some v => do
      let r ← settlePending c r
      store c r (.opt o) [v]
    | true, none => do
      let r ← settlePending c r
      pure { r with pending := some (.opt o, []) }
    | false, some v =>
      -- the usage line names what was given before the pending argument is settled
      .error (.usage (unwantedValue c (r.slots ++ [.opt o]) ("--" ++ name) v))
    | false, none => do
      let r ← settlePending c r
      match o.action with
      | .help => .error (.help c true)
      | .version => .error (.version c)
      | _ => store c r (.opt o) ["true"]

/-- Reads the letters of one `-abc` argument. -/
def readShort : List Char → Reading → Except Halt Reading
  | [], r => .ok r
  | ch :: more, r =>
    match c.findShort ch with
    | none =>
      let r := settleQuietly c r
      let arg := "-" ++ ch.toString
      let tips := if !r.trailing && !c.positionals.isEmpty then [valueTip arg] else []
      .error (.usage (usageError (unexpectedArgument arg) tips (some (helpUsage c))))
    | some o =>
      if o.action.takesValue then
        match more with
        | [] => do
          let r ← settlePending c r
          pure { r with pending := some (.opt o, []) }
        | _ => do
          let r ← settlePending c r
          let v := match more with
            | '=' :: v => v
            | v => v
          store c r (.opt o) [String.ofList v]
      else do
        let r ← settlePending c r
        match o.action with
        | .help => .error (.help c false)
        | .version => .error (.version c)
        | _ =>
          let r ← store c r (.opt o) ["true"]
          readShort more r

/-- A word that is no argument of the command; `trailing` tells whether it came after `--`. -/
def strayWord (trailing : Bool) (word : String) : Halt :=
  let subs := subcommandsOf c
  let similar := Text.similarNames word (subs.map (·.name))
  if trailing ∧ subs.any (·.name == word) then .usage (subcommandAfterEscape c word)
  else if !similar.isEmpty ∨ (!subs.isEmpty ∧ c.positionals.isEmpty) then
    .usage (unknownSubcommand c word similar)
  else .usage (usageError (unexpectedArgument word) [] (some (helpUsage c)))

/-- Reads a positional value. -/
def readPlace (word : String) (r : Reading) : Except Halt Reading :=
  match c.positionals[r.nextPlace]? with
  | some p => do
    let r ← settlePending c r
    pure { r with pending := some (.pos r.nextPlace p, [word]), nextPlace := r.nextPlace + 1 }
  | none => .error (strayWord c r.trailing word)

/-- Whether an argument reads as options: it starts with `-` and is more than `-`. -/
def isFlagLike (a : String) : Bool :=
  a.startsWith "-" && a.length > 1

/-- Reads a command's arguments, up to the end or to a subcommand's name, which is returned with
the arguments after it. -/
def readArgs : List String → Reading → Except Halt (Reading × Option (String × List String))
  | [], r => do
    let r ← settlePending c r
    pure (r, none)
  | a :: rest, r =>
    if r.trailing then do
      let r ← readPlace c a r
      readArgs rest r
    else if (subcommandsOf c).any (·.name == a) then pure (r, some (a, rest))
    else if a = "--" then do
      let r ← settlePending c r
      readArgs rest { r with trailing := true }
    else if a.startsWith "--" then do
      let r ← readLong c (a.drop 2).toString rest r
      readArgs rest r
    else if isFlagLike a then do
      let r ← readShort c (a.toList.drop 1) r
      readArgs rest r
    else if r.awaitsValue then
      readArgs rest { r with pending := r.pending.map fun (s, vs) => (s, vs ++ [a]) }
    else do
      let r ← readPlace c a r
      readArgs rest r

/-- Checks that every required positional was given. -/
def checkRequired (r : Reading) : Except Halt Reading :=
  let missing := c.positionals.zipIdx.filterMap fun (p, i) =>
    if p.required && (r.placeValue i).isNone then some (i, p) else none
  if missing.isEmpty then .ok r
  else .error (.usage (missingArguments c r.argSlots missing))

/-- The help that `help` shows for the commands it names. -/
def helpFor : Command → List String → Halt
  | c, [] => .help c true
  | c, w :: ws =>
    match (subcommandsOf c).find? (·.name == w) with
    | some sub => helpFor sub ws
    | none => .usage (unknownSubcommand c w [])

end TableDdl.Cli
