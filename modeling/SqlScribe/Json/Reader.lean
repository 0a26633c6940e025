import SqlScribe.Json.Fault

/-!
# Reading JSON

A reader takes something off the start of a text and returns it with the text that is left,
or reports a fault.  The loops over arrays and objects work on a state instead, which
survives a fault: `Progress` is the state together with the text that is left or the fault.
Both loops give up one character of a bound for every element and every member, and since
each of them takes a character of the text at least, the text itself is a bound that is long
enough.
-/

namespace SqlScribe.Json

/-- Something that takes a value off the start of a text. -/
abbrev Reader (α : Type) := List Char → Except Fault (α × List Char)

/-- What reading has made of a state, and the text that is left or the fault that it met. -/
structure Progress (σ : Type) where
  /-- The state. -/
  state : σ
  /-- The text that is left, or the fault. -/
  left : Except Fault (List Char)

/-- The blank characters of JSON. -/
def isSpace (c : Char) : Bool :=
  c == ' ' || c == '\n' || c == '\t' || c == '\r'

/-- The text without the blank characters at its start. -/
def skipSpace (text : List Char) : List Char :=
  text.dropWhile isSpace

/-- Takes the given characters off the text. -/
def expect : List Char → List Char → Except Fault (List Char)
  | [], text => .ok text
  | _ :: _, [] => .error .truncated
  | c :: word, d :: text => if c == d then expect word text else .error .malformed

/-- The fault of a text that does not go on as the syntax demands. -/
def unexpected (text : List Char) : Fault :=
  if text.isEmpty then .truncated else .malformed

/-- Takes the colon between a key and its value off the text. -/
def readColon (text : List Char) : Except Fault (List Char) :=
  match skipSpace text with
  | ':' :: rest => .ok rest
  | other => .error (unexpected other)

/-- Reads elements up to the end of the array; the first one is next. -/
def readElements {σ : Type} (step : σ → List Char → Progress σ) :
    List Char → σ → List Char → Progress σ
  | [], s, _ => ⟨s, .error .truncated⟩
  | _ :: bound, s, text =>
    let p := step s text
    match p.left with
    | .error _ => p
    | .ok rest =>
      match skipSpace rest with
      | ']' :: after => ⟨p.state, .ok after⟩
      | ',' :: after => readElements step bound p.state after
      | other => ⟨p.state, .error (unexpected other)⟩

/-- Reads an array, of which the opening bracket has been taken off. -/
def readArrayRest {σ : Type} (step : σ → List Char → Progress σ) (s : σ) (text : List Char) :
    Progress σ :=
  match skipSpace text with
  | ']' :: after => ⟨s, .ok after⟩
  | more => readElements step more s more

/-- Reads members up to the end of the object; the first key is next.  A step starts after
the key. -/
def readMembers {σ : Type} (readKey : Reader String)
    (step : σ → String → List Char → Progress σ) : List Char → σ → List Char → Progress σ
  | [], s, _ => ⟨s, .error .truncated⟩
  | _ :: bound, s, text =>
    match skipSpace text with
    | '"' :: keyText =>
      match readKey keyText with
      | .error f => ⟨s, .error f⟩
      | .ok (key, afterKey) =>
        let p := step s key afterKey
        match p.left with
        | .error _ => p
        | .ok rest =>
          match skipSpace rest with
          | '\x7d' :: after => ⟨p.state, .ok after⟩
          | ',' :: after => readMembers readKey step bound p.state after
          | other => ⟨p.state, .error (unexpected other)⟩
    | other => ⟨s, .error (unexpected other)⟩

/-- Reads an object, of which the opening brace has been taken off. -/
def readObjectRest {σ : Type} (readKey : Reader String)
    (step : σ → String → List Char → Progress σ) (s : σ) (text : List Char) : Progress σ :=
  match skipSpace text with
  | '\x7d' :: after => ⟨s, .ok after⟩
  | more => readMembers readKey step more s more

/-- Whether nothing but blank characters is left after a document. -/
def readEnd (text : List Char) : Except Fault Unit :=
  if (skipSpace text).isEmpty then .ok () else .error .malformed

/-- Reads a whole document. -/
def readDocument {α : Type} (read : Reader α) (text : String) : Except Fault α := do
  let (value, rest) ← read text.toList
  readEnd rest
  return value

end SqlScribe.Json
