import SqlScribe.Json.Scalar
import SqlScribe.Schema.Value

/-!
# Rows as documents

Rows are written as a JSON array of objects that give values to names; of several values
for one name the last one counts.  A value is `null`, a truth value, a number or a string.
A number that is not an integer of 64 bits with a sign is a double.  Arrays and objects are
no values, and they are read to their ends before that is said.
-/

namespace SqlScribe

open Json Number

/-- The number of arrays and objects that a document can have in one another. -/
def maximalDepth : Nat :=
  127

/-- The value of a number. -/
def Value.ofNumeric : Numeric → Value
  | .integer n =>
    if Int64.minValue.toInt ≤ n ∧ n ≤ Int64.maxValue.toInt then .int (Int64.ofInt n)
    else .float (Double.ofNat n.toNat)
  | .real x => .float x

/-- Reads a value; `depth` is the number of arrays and objects that can still be opened. -/
def readValue (depth : Nat) : Reader Value := fun text =>
  match skipSpace text with
  | '"' :: rest => (readText rest).map fun (s, after) => (.text s, after)
  | 'n' :: rest => (expect ['u', 'l', 'l'] rest).map fun after => (.null, after)
  | 't' :: rest => (expect ['r', 'u', 'e'] rest).map fun after => (.bool true, after)
  | 'f' :: rest => (expect ['a', 'l', 's', 'e'] rest).map fun after => (.bool false, after)
  | other =>
    if other.head?.any fun c => c == '-' || c.isDigit then
      (readNumber other).map fun (n, after) => (Value.ofNumeric n, after)
    else
      match skipNested .strict depth other with
      | .ok _ => .error (.misfit .compoundValue)
      | .error f => .error f

/-- Reads the value of a name into a row. -/
def readCell (depth : Nat) (row : Row) (name : String) (text : List Char) : Progress Row :=
  match (readColon text).bind (readValue depth) with
  | .ok (v, after) => ⟨row.insert name v, .ok after⟩
  | .error f => ⟨row, .error f⟩

/-- Reads a row, which stands in an array. -/
def readRow : Reader Row := fun text =>
  match skipSpace text with
  | '\x7b' :: rest =>
    let p := readObjectRest readText (readCell (maximalDepth - 2)) {} rest
    p.left.map fun after => (p.state, after)
  | _ => .error (refusal .map text)

/-- The value that a document holds. -/
def Value.ofJson (text : String) : Except Fault Value :=
  readDocument (readValue maximalDepth) text

/-- The rows that a document holds. -/
def Row.listOfJson (text : String) : Except Fault (List Row) :=
  readDocument (readList readRow) text

end SqlScribe
