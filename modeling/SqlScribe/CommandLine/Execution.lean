import SqlScribe.CommandLine.Arguments
import SqlScribe.CommandLine.Event
import SqlScribe.CommandLine.Listing
import SqlScribe.Document.Rows
import SqlScribe.Document.Table
import SqlScribe.Schema.Defect
import SqlScribe.Sql.Lexer
import SqlScribe.Statement.CreateTable
import SqlScribe.Statement.Insert

/-!
# Execution of commands

What a command does among given files, with a given standard input and a given variable for
the dialect.  A command takes its steps in order and ends at the first one that fails; then
nothing is written but the events so far and the failure.  A dialect in the arguments, or
else in the variable, replaces that of the table, and a name that no dialect has is taken
for the default one.
-/

namespace SqlScribe.CommandLine

/-- Why a text cannot be read. -/
inductive ReadFailure where
  /-- There is no such file. -/
  | missing
  /-- The bytes are no text. -/
  | notText
  /-- Another reason, which the system tells. -/
  | other (message : String)
  deriving Repr, DecidableEq

/-- What is said about a text that cannot be read. -/
def ReadFailure.message : ReadFailure → String
  | missing => "No such file or directory (os error 2)"
  | notText => "stream did not contain valid UTF-8"
  | other message => message

/-- Why a command fails. -/
inductive Failure where
  /-- A file cannot be read. -/
  | file (path : String) (cause : ReadFailure)
  /-- A file does not hold what it should. -/
  | document (path : String) (fault : Json.Fault)
  /-- A table has a defect. -/
  | table (path : String) (defect : Defect)
  /-- The standard input cannot be read. -/
  | input (cause : ReadFailure)
  deriving Repr, DecidableEq

/-- What is said about a document that does not hold what it should. -/
def faultMessage : Json.Fault → String
  | .truncated => "unexpected end of the document"
  | .malformed => "malformed document"
  | .misfit m => m.message

namespace Failure

/-- The step that failed. -/
def context : Failure → String
  | file path _ => "failed to read " ++ path
  | document path _ => "failed to parse " ++ path
  | table path _ => "invalid table definition in " ++ path
  | input _ => "failed to read SQL from stdin"

/-- Why the step failed. -/
def cause : Failure → String
  | file _ cause => cause.message
  | document _ fault => faultMessage fault
  | table _ defect => defect.message
  | input cause => cause.message

/-- A text of which every line is set in by four columns. -/
def setIn (text : String) : String :=
  "    " ++ String.ofList (text.toList.flatMap fun c =>
    if c == '\n' then ['\n', ' ', ' ', ' ', ' '] else [c])

/-- The first line of the report of a failure, without its end. -/
def headline (f : Failure) : String :=
  "Error: " ++ f.context

/-- The report of a failure. -/
def report (f : Failure) : String :=
  f.headline ++ "\n\nCaused by:\n" ++ setIn f.cause ++ "\n"

end Failure

/-- What surrounds a command. -/
structure Surroundings where
  /-- The contents of the files. -/
  file : String → Except ReadFailure ByteArray
  /-- The standard input. -/
  input : Except ReadFailure ByteArray
  /-- The variable for the dialect. -/
  dialect : Option String

/-- The text of some bytes. -/
def decode (bytes : ByteArray) : Except ReadFailure String :=
  match String.fromUTF8? bytes with
  | some text => .ok text
  | none => .error .notText

/-- The text of a file. -/
def Surroundings.readFile (w : Surroundings) (path : String) : Except Failure String :=
  match (w.file path).bind decode with
  | .ok text => .ok text
  | .error cause => .error (.file path cause)

/-- The text of the standard input. -/
def Surroundings.readInput (w : Surroundings) : Except Failure String :=
  match w.input.bind decode with
  | .ok text => .ok text
  | .error cause => .error (.input cause)

/-- What a step of a command has told, and its result. -/
structure Step (α : Type) where
  /-- The events, in order. -/
  events : List Event
  /-- The result, or the failure that ended the command. -/
  result : Except Failure α

/-- A step and, if it does not fail, what follows from its result. -/
def Step.andThen {α β : Type} (s : Step α) (next : α → Step β) : Step β :=
  match s.result with
  | .ok value => { next value with events := s.events ++ (next value).events }
  | .error f => ⟨s.events, .error f⟩

/-- A step that tells nothing. -/
def Step.of {α : Type} (result : Except Failure α) : Step α :=
  ⟨[], result⟩

/-- What is told about a name that may be that of no dialect. -/
def fallbackEvents (name : Option String) : List Event :=
  match name with
  | none => []
  | some name =>
    match Dialect.ofName name with
    | .ok _ => []
    | .error e => [.fallback e]

/-- The table with the dialect of a name, if there is one. -/
def retarget (t : Table) (name : Option String) : Table :=
  match name with
  | none => t
  | some name => t.withDialect (Dialect.ofNameOrDefault name)

/-- Reads the document of a table. -/
def readTable (path text : String) : Step Table :=
  let reading := Table.readDocument text
  { events := fallbackEvents reading.dialectName
    result :=
      match reading.outcome with
      | .ok t => .ok t
      | .error fault => .error (.document path fault) }

/-- Gives the table its dialect and looks for a defect. -/
def checkTable (path : String) (dialect : Option String) (t : Table) : Step Table :=
  let target := retarget t dialect
  match target.defect? with
  | some defect => ⟨fallbackEvents dialect, .error (.table path defect)⟩
  | none => ⟨fallbackEvents dialect ++ [.loaded target], .ok target⟩

/-- The table of a file. -/
def loadTable (w : Surroundings) (path : String) (dialect : Option String) : Step Table :=
  ((Step.of (w.readFile path)).andThen (readTable path)).andThen
    (checkTable path (dialect <|> w.dialect))

/-- The rows of a file. -/
def loadRows (w : Surroundings) (path : String) : Step (List Row) :=
  (Step.of (w.readFile path)).andThen fun text =>
    match Row.listOfJson text with
    | .ok rows => .of (.ok rows)
    | .error fault => .of (.error (.document path fault))

/-- How the insertion of rows is told. -/
def insertionEvent (t : Table) (rows : Nat) : Event :=
  match t.dialect, Statement.InsertForm.of t.dialect rows with
  | .oracle, .rowByRow => .insertingEach t rows
  | .oracle, _ => .selecting t rows
  | _, _ => .inserting t rows

/-- The statements that create a table. -/
def create (t : Table) : Step String where
  events := [.dispatching .ddl t, .creating t]
  result := .ok (t.createSql ++ "\n")

/-- The statements that insert rows. -/
def insert (t : Table) (rows : List Row) : Step String :=
  if rows.isEmpty then ⟨[.nothingToInsert], .ok ""⟩
  else
    { events := [.dispatching .dml t, insertionEvent t rows.length]
      result := .ok (t.insertSql rows ++ "\n") }

/-- The listing of the tokens of SQL text. -/
def list (json : Bool) (source : String) : Step String :=
  let tokens := Sql.tokenize source
  { events := [.tokenized tokens.length source.utf8ByteSize]
    result := .ok (if json then tokenArray tokens ++ "\n" else tokenLines tokens) }

/-- What a command does. -/
def execute (w : Surroundings) : Command → Step String
  | .ddl table dialect => (loadTable w table dialect).andThen create
  | .dml table rows dialect =>
    (loadTable w table dialect).andThen fun t => (loadRows w rows).andThen (insert t)
  | .tokens input json =>
    (Step.of (match input with
      | some path => w.readFile path
      | none => w.readInput)).andThen (list json)

/-- What is left of a command. -/
structure Outcome where
  /-- The exit code. -/
  exitCode : UInt32
  /-- The standard output. -/
  output : String
  /-- The lines of the events that are told. -/
  log : String
  /-- The failure that ended the command. -/
  failure : Option Failure

/-- What is left of a command line that asks for a command. -/
def run (w : Surroundings) (i : Invocation) : Outcome :=
  let s := execute w i.command
  let log := tell i.verbose s.events
  match s.result with
  | .ok output => ⟨0, output, log, none⟩
  | .error f => ⟨1, "", log, some f⟩

/-- The line of the version. -/
def versionLine : String :=
  "sqlforge 0.1.0\n"

end SqlScribe.CommandLine
