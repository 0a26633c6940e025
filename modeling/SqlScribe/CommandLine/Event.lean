import SqlScribe.Schema.Table

/-!
# Events

What is told about the execution of a command.  An event has a level and a text, which ends
in the circumstances of the event; details are only told when they are asked for.
-/

namespace SqlScribe.CommandLine

/-- How much an event matters. -/
inductive Level where
  /-- Something has been taken for something else. -/
  | warn
  /-- Something that is good to know. -/
  | info
  /-- A detail. -/
  | debug
  deriving Repr, DecidableEq

/-- The name of a level, in five columns. -/
def Level.name : Level → String
  | warn => " WARN"
  | info => " INFO"
  | debug => "DEBUG"

/-- Which statements are made. -/
inductive StatementKind where
  /-- Those that create a table. -/
  | ddl
  /-- Those that insert rows. -/
  | dml
  deriving Repr, DecidableEq

/-- The name of a kind of statements. -/
def StatementKind.name : StatementKind → String
  | ddl => "Ddl"
  | dml => "Dml"

/-- What is told. -/
inductive Event where
  /-- An unknown dialect has been taken for the default one. -/
  | fallback (e : UnknownDialect)
  /-- A table has been read and has no defect. -/
  | loaded (t : Table)
  /-- There are no rows to insert. -/
  | nothingToInsert
  /-- Statements are made. -/
  | dispatching (kind : StatementKind) (t : Table)
  /-- A table is created. -/
  | creating (t : Table)
  /-- Rows are inserted as a list of values. -/
  | inserting (t : Table) (rows : Nat)
  /-- Rows are selected together. -/
  | selecting (t : Table) (rows : Nat)
  /-- Each row gets a statement. -/
  | insertingEach (t : Table) (rows : Nat)
  /-- SQL text has been read as tokens. -/
  | tokenized (tokens bytes : Nat)
  deriving Repr, DecidableEq

namespace Event

/-- The level of an event. -/
def level : Event → Level
  | fallback _ => .warn
  | nothingToInsert => .info
  | _ => .debug

/-- The text of an event. -/
def text : Event → String
  | fallback e => "falling back to " ++ (default : Dialect).name ++ " err=" ++ e.message
  | loaded t =>
    "loaded table definition table=" ++ t.name ++ " dialect=" ++ t.dialect.name ++ " fields="
      ++ toString t.fields.length
  | nothingToInsert => "No rows given, nothing to insert."
  | dispatching kind t =>
    "dispatching kind=" ++ kind.name ++ " dialect=" ++ t.dialect.name ++ " table=" ++ t.name
  | creating t =>
    "generating CREATE TABLE dialect=" ++ t.dialect.name ++ " table=" ++ t.name ++ " fields="
      ++ toString t.fields.length ++ " compound_primary_key="
      ++ (if t.hasCompoundKey then "true" else "false")
  | inserting t rows =>
    "generating INSERT dialect=" ++ t.dialect.name ++ " table=" ++ t.name ++ " rows="
      ++ toString rows
  | selecting t rows =>
    "generating Oracle INSERT ... SELECT FROM DUAL table=" ++ t.name ++ " rows=" ++ toString rows
  | insertingEach t rows =>
    "generating one Oracle INSERT per row table=" ++ t.name ++ " rows=" ++ toString rows
  | tokenized tokens bytes =>
    "tokenized input tokens=" ++ toString tokens ++ " bytes=" ++ toString bytes

/-- The line of an event. -/
def line (e : Event) : String :=
  e.level.name ++ " " ++ e.text ++ "\n"

end Event

/-- The lines of the events that are told. -/
def tell (verbose : Bool) (events : List Event) : String :=
  String.join ((events.filter fun e => verbose || e.level != .debug).map Event.line)

end SqlScribe.CommandLine
