/-!
# Command-line arguments

What a command line asks for.  There are three commands, each with switches of its own, and
a switch that is allowed before and after the name of the command.  A switch is given by
its letter or by its word, and its value follows in the same argument or in the next one,
which then must not look like a switch; letters of switches without a value can be
joined.  No switch is given twice at the same place, paths are not empty, and after `--`
nothing can follow.  A command line that breaks these rules asks for nothing.
-/

namespace SqlScribe.CommandLine

/-- What is asked for. -/
inductive Command where
  /-- The statements that create a table. -/
  | ddl (table : String) (dialect : Option String)
  /-- The statements that insert rows into a table. -/
  | dml (table rows : String) (dialect : Option String)
  /-- The tokens of SQL text. -/
  | tokens (input : Option String) (json : Bool)
  deriving Repr, DecidableEq

/-- A command, and whether the steps of its execution are told. -/
structure Invocation where
  /-- Whether the steps are told. -/
  verbose : Bool
  /-- The command. -/
  command : Command
  deriving Repr, DecidableEq

/-- Why a command line asks for no command. -/
inductive Stop where
  /-- It breaks the rules. -/
  | usage
  /-- It asks for the version. -/
  | version
  deriving Repr, DecidableEq

/-- The switches. -/
inductive Switch where
  /-- The steps are told. -/
  | verbose
  /-- The version is asked for. -/
  | version
  /-- The file of the table. -/
  | table
  /-- The file of the rows. -/
  | rows
  /-- The name of the dialect. -/
  | dialect
  /-- The file of the SQL text. -/
  | input
  /-- The tokens are written as JSON. -/
  | json
  deriving Repr, DecidableEq

namespace Switch

/-- The letter of a switch. -/
def letter? : Switch → Option Char
  | verbose => some 'v'
  | version => some 'V'
  | table => some 't'
  | rows => some 'r'
  | dialect => some 'd'
  | input => some 'i'
  | json => none

/-- The word of a switch. -/
def word : Switch → String
  | verbose => "verbose"
  | version => "version"
  | table => "table"
  | rows => "rows"
  | dialect => "dialect"
  | input => "input"
  | json => "json"

/-- Whether a switch takes a path. -/
def takesPath : Switch → Bool
  | table | rows | input => true
  | _ => false

/-- Whether a switch takes a value. -/
def takesValue (s : Switch) : Bool :=
  s.takesPath || s == dialect

end Switch

/-- The parts of a command line: before the name of the command, and after it. -/
inductive Place where
  /-- Before the name of a command. -/
  | top
  /-- After `ddl`. -/
  | ddl
  /-- After `dml`. -/
  | dml
  /-- After `tokens`. -/
  | tokens
  deriving Repr, DecidableEq

/-- The switches that are allowed at a place. -/
def Place.switches : Place → List Switch
  | top => [.verbose, .version]
  | ddl => [.verbose, .table, .dialect]
  | dml => [.verbose, .table, .rows, .dialect]
  | tokens => [.verbose, .input, .json]

/-- The place after the name of a command. -/
def Place.ofCommand? : String → Option Place
  | "ddl" => some ddl
  | "dml" => some dml
  | "tokens" => some tokens
  | _ => none

/-- The switches that have been given at a place, with their values. -/
abbrev Given := List (Switch × String)

/-- One more switch; a switch without a value has the empty one. -/
def give (given : Given) (s : Switch) (value : String) : Except Stop Given :=
  if given.any (fun g => g.1 == s) || (s.takesPath && value.isEmpty) then .error .usage
  else .ok (given ++ [(s, value)])

/-- Whether an argument can be the value of a switch in the argument before it. -/
def canBeValue (argument : String) : Bool :=
  argument == "-" || argument.toList.head? != some '-'

/-- Gives a switch the value in the next argument; the result has the arguments after it. -/
def giveNext (given : Given) (s : Switch) : List String → Except Stop (Given × List String)
  | [] => .error .usage
  | next :: rest =>
    if canBeValue next then (give given s next).map fun given => (given, rest)
    else .error .usage

/-- Reads the letters of an argument; the result has the arguments after it and after the
value of the last letter. -/
def readLetters (place : Place) (given : Given) (arguments : List String) :
    List Char → Except Stop (Given × List String)
  | [] => .ok (given, arguments)
  | c :: letters =>
    match place.switches.find? fun s => s.letter? == some c with
    | none => .error .usage
    | some .version => .error .version
    | some s =>
      if s.takesValue then
        match letters with
        | [] => giveNext given s arguments
        | '=' :: value => (give given s (String.ofList value)).map fun given => (given, arguments)
        | value => (give given s (String.ofList value)).map fun given => (given, arguments)
      else
        match give given s "" with
        | .ok given => readLetters place given arguments letters
        | .error stop => .error stop

/-- Reads the word of an argument, with the value after an equals sign if there is one. -/
def readWord (place : Place) (given : Given) (arguments : List String) (text : List Char) :
    Except Stop (Given × List String) :=
  let word := String.ofList (text.takeWhile (· != '='))
  let value := (text.dropWhile (· != '=')).tail
  let attached := text.contains '='
  match place.switches.find? fun s => s.word == word with
  | none => .error .usage
  | some s =>
    if s.takesValue then
      if attached then (give given s (String.ofList value)).map fun given => (given, arguments)
      else giveNext given s arguments
    else if attached then .error .usage
    else if s == .version then .error .version
    else (give given s "").map fun given => (given, arguments)

/-- Reads the switches at a place, up to the first argument that is none; the result has
that argument and those after it.  One argument of a bound is given up for each switch. -/
def readSwitches (place : Place) :
    List String → Given → List String → Except Stop (Given × List String)
  | [], given, _ => .ok (given, [])
  | _ :: _, given, [] => .ok (given, [])
  | _ :: bound, given, argument :: arguments =>
    match argument.toList with
    | ['-', '-'] => if arguments.isEmpty then .ok (given, []) else .error .usage
    | '-' :: '-' :: text =>
      match readWord place given arguments text with
      | .ok (given, rest) => readSwitches place bound given rest
      | .error stop => .error stop
    | '-' :: c :: letters =>
      match readLetters place given arguments (c :: letters) with
      | .ok (given, rest) => readSwitches place bound given rest
      | .error stop => .error stop
    | _ => .ok (given, argument :: arguments)

/-- The value of a switch that has to be given. -/
def required (given : Given) (s : Switch) : Except Stop String :=
  match given.lookup s with
  | some value => .ok value
  | none => .error .usage

/-- The command of the switches after its name. -/
def commandOf (place : Place) (given : Given) : Except Stop Command :=
  match place with
  | .top => .error .usage
  | .ddl => do return .ddl (← required given .table) (given.lookup .dialect)
  | .dml => do
    return .dml (← required given .table) (← required given .rows) (given.lookup .dialect)
  | .tokens => .ok (.tokens (given.lookup .input) (given.lookup .json).isSome)

/-- What a command line asks for. -/
def parse (arguments : List String) : Except Stop Invocation := do
  let (before, rest) ← readSwitches .top arguments [] arguments
  match rest with
  | [] => .error .usage
  | name :: rest =>
    match Place.ofCommand? name with
    | none => .error .usage
    | some place =>
      let (after, extra) ← readSwitches place rest [] rest
      let command ← commandOf place after
      if extra.isEmpty then
        return ⟨(before.lookup .verbose).isSome || (after.lookup .verbose).isSome, command⟩
      else .error .usage

end SqlScribe.CommandLine
