import SqlScribe.Json.Number
import SqlScribe.Json.Text

/-!
# Typed JSON values

Readers for strings, truth values, words of 32 bits and optional values.  A reader that
meets something else reports it together with what it wants; strings and numbers are read
to their ends for that report, so a fault inside them comes first, while arrays and objects
are reported at their opening.  `skipValue` passes over a value of any kind.
-/

namespace SqlScribe.Json

/-- Says what stands at the start of a text. -/
def foundAt (text : List Char) : Except Fault Found :=
  match text with
  | [] => .error .truncated
  | '[' :: _ => .ok .sequence
  | '\x7b' :: _ => .ok .map
  | '"' :: rest => (readText rest).map fun (s, _) => .text s
  | 'n' :: rest => (expect ['u', 'l', 'l'] rest).map fun _ => .null
  | 't' :: rest => (expect ['r', 'u', 'e'] rest).map fun _ => .boolean true
  | 'f' :: rest => (expect ['a', 'l', 's', 'e'] rest).map fun _ => .boolean false
  | c :: _ =>
    if c == '-' || c.isDigit then
      (readNumber text).map fun
        | (.integer n, _) => .integer n
        | (.real x, _) => .real x
    else .error .malformed

/-- The fault of a text that does not start with what is wanted. -/
def refusal (wanted : Wanted) (text : List Char) : Fault :=
  match foundAt (skipSpace text) with
  | .ok found => .misfit (.wrongType found wanted)
  | .error f => f

/-- Reads a string. -/
def readString : Reader String := fun text =>
  match skipSpace text with
  | '"' :: rest => readText rest
  | _ => .error (refusal .text text)

/-- Reads a truth value. -/
def readBool : Reader Bool := fun text =>
  match skipSpace text with
  | 't' :: rest => (expect ['r', 'u', 'e'] rest).map fun after => (true, after)
  | 'f' :: rest => (expect ['a', 'l', 's', 'e'] rest).map fun after => (false, after)
  | _ => .error (refusal .boolean text)

/-- Reads a natural number of 32 bits. -/
def readWord : Reader UInt32 := fun text =>
  match skipSpace text with
  | [] => .error .truncated
  | c :: rest =>
    if c == '-' || c.isDigit then
      match readNumber (c :: rest) with
      | .error f => .error f
      | .ok (.real x, _) => .error (.misfit (.wrongType (.real x) .word))
      | .ok (.integer n, after) =>
        if 0 ≤ n ∧ n < UInt32.size then .ok (UInt32.ofNat n.toNat, after)
        else .error (.misfit (.outOfRange n .word))
    else .error (refusal .word text)

/-- Reads a value, for which `null` can stand. -/
def readOption {α : Type} (read : Reader α) : Reader (Option α) := fun text =>
  match skipSpace text with
  | 'n' :: rest => (expect ['u', 'l', 'l'] rest).map fun after => (none, after)
  | _ => (read text).map fun (value, after) => (some value, after)

/-- Reads an array into a list. -/
def readList {α : Type} (read : Reader α) : Reader (List α) := fun text =>
  match skipSpace text with
  | '[' :: rest =>
    let p := readArrayRest (fun values text =>
      match read text with
      | .ok (value, after) => ⟨value :: values, .ok after⟩
      | .error f => ⟨values, .error f⟩) [] rest
    p.left.map fun after => (p.state.reverse, after)
  | _ => .error (refusal .sequence text)

/-- How the strings and numbers of a value are passed over. -/
structure Skipping where
  /-- Reads the rest of a string. -/
  text : Reader String
  /-- Passes over a number. -/
  number : List Char → Except Fault (List Char)

/-- Strings and numbers need only be well formed. -/
def Skipping.lenient : Skipping where
  text := fun text => (skipText text).map fun after => ("", after)
  number := skipNumber

/-- Strings and numbers need to have values. -/
def Skipping.strict : Skipping where
  text := readText
  number := fun text => (readNumber text).map (·.2)

/-- Passes over a value with at most `depth` arrays and objects in one another; a deeper one
is malformed. -/
def skipNested (how : Skipping) : Nat → List Char → Except Fault (List Char)
  | depth, text =>
    match skipSpace text with
    | [] => .error .truncated
    | '"' :: rest => (how.text rest).map (·.2)
    | 'n' :: rest => expect ['u', 'l', 'l'] rest
    | 't' :: rest => expect ['r', 'u', 'e'] rest
    | 'f' :: rest => expect ['a', 'l', 's', 'e'] rest
    | '[' :: rest =>
      match depth with
      | 0 => .error .malformed
      | depth + 1 =>
        (readArrayRest (fun _ text => ⟨(), skipNested how depth text⟩) () rest).left
    | '\x7b' :: rest =>
      match depth with
      | 0 => .error .malformed
      | depth + 1 =>
        (readObjectRest how.text (fun _ _ text =>
          ⟨(), (readColon text).bind fun after => skipNested how depth after⟩) () rest).left
    | c :: rest =>
      if c == '-' || c.isDigit then how.number (c :: rest) else .error .malformed

/-- Passes over a value of any kind and depth. -/
def skipValue (text : List Char) : Except Fault (List Char) :=
  skipNested .lenient text.length text

end SqlScribe.Json
