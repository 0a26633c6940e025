import SqlScribe.Schema.ColumnType
import SqlScribe.Number.Shortest
import SqlScribe.Text.Escaped

/-!
# Faults of JSON texts

Why a JSON text gives no value.  It can end too early, it can break the syntax of JSON, or it
can be well formed up to a place and hold there something that does not fit what is wanted.
The first fault in the order of the text is the one that is reported.
-/

namespace SqlScribe.Json

open Number

/-- What stands at a place of a JSON text. -/
inductive Found where
  /-- The word `null`. -/
  | null
  /-- A truth value. -/
  | boolean (b : Bool)
  /-- A number that is an integer of 64 bits, signed or not. -/
  | integer (n : Int)
  /-- Any other number. -/
  | real (x : Double)
  /-- A string. -/
  | text (s : String)
  /-- An array. -/
  | sequence
  /-- An object. -/
  | map
  deriving Repr, DecidableEq

/-- What is said to stand at a place. -/
def Found.message : Found → String
  | null => "null"
  | boolean b => "boolean `" ++ (if b then "true" else "false") ++ "`"
  | integer n => "integer `" ++ toString n ++ "`"
  | real x => "floating point `" ++ Layout.marked.write x ++ "`"
  | text s => "string " ++ Text.Escaped.quoted s
  | sequence => "sequence"
  | map => "map"

/-- What is wanted at a place of a JSON text. -/
inductive Wanted where
  /-- A string. -/
  | text
  /-- A truth value. -/
  | boolean
  /-- A natural number of 32 bits. -/
  | word
  /-- An array. -/
  | sequence
  /-- An object. -/
  | map
  /-- A record of a kind that is given by its title. -/
  | record (title : String)
  deriving Repr, DecidableEq

/-- What is said to be wanted. -/
def Wanted.message : Wanted → String
  | text => "a string"
  | boolean => "a boolean"
  | word => "u32"
  | sequence => "a sequence"
  | map => "a map"
  | record title => "struct " ++ title

/-- Why something does not fit. -/
inductive Misfit where
  /-- A record lacks a member. -/
  | missingMember (key : String)
  /-- A record has a member twice. -/
  | repeatedMember (key : String)
  /-- Something else than what is wanted. -/
  | wrongType (found : Found) (wanted : Wanted)
  /-- An integer that is out of range. -/
  | outOfRange (n : Int) (wanted : Wanted)
  /-- An array that is too short for the record that it stands for. -/
  | tooShort (count : Nat) (title : String) (size : Nat)
  /-- A string that is the name of no column type. -/
  | columnType (e : UnknownColumnType)
  /-- An array or an object in the place of a value. -/
  | compoundValue
  deriving Repr, DecidableEq

/-- What is said about something that does not fit. -/
def Misfit.message : Misfit → String
  | missingMember key => "missing field `" ++ key ++ "`"
  | repeatedMember key => "duplicate field `" ++ key ++ "`"
  | wrongType found wanted => "invalid type: " ++ found.message ++ ", expected " ++ wanted.message
  | outOfRange n wanted =>
    "invalid value: " ++ (Found.integer n).message ++ ", expected " ++ wanted.message
  | tooShort count title size =>
    "invalid length " ++ toString count ++ ", expected " ++ (Wanted.record title).message ++ " with "
      ++ toString size ++ " elements"
  | columnType e => e.message
  | compoundValue => "data did not match any variant of untagged enum SqlValue"

/-- Why a JSON text gives no value. -/
inductive Fault where
  /-- The text ends too early. -/
  | truncated
  /-- The text breaks the syntax. -/
  | malformed
  /-- The text holds something that does not fit. -/
  | misfit (m : Misfit)
  deriving Repr, DecidableEq

end SqlScribe.Json
