import SqlScribe.Json.Scalar

/-!
# Records in JSON

A record is written as an object whose keys are the names of its members, or as an array
that gives its members in order.  In an object the members come in any order, none of them
twice, and other keys have no meaning; in an array members at the end can be left out.
`Format` says which members there are, how each is read into a draft of the record, and how
the draft becomes the record.  The draft survives a fault, since what has been read before
it can still be of interest.
-/

namespace SqlScribe.Json

/-- How a record is read. -/
structure Format (Member Draft α : Type) where
  /-- The title of the record in reports. -/
  title : String
  /-- The members, in the order of the array form. -/
  members : List Member
  /-- The key of a member. -/
  key : Member → String
  /-- The draft without any member. -/
  empty : Draft
  /-- Whether the draft has a member. -/
  has : Draft → Member → Bool
  /-- Reads a member into the draft. -/
  read : Member → Draft → Reader Draft
  /-- The record of a draft, or the first member that it lacks. -/
  finish : Draft → Except Misfit α

namespace Format

variable {Member Draft α : Type}

/-- Reads a member into the draft, which stays as it is if there is a fault. -/
def readMember (format : Format Member Draft α) (m : Member) (draft : Draft)
    (text : List Char) : Progress Draft :=
  match format.read m draft text with
  | .ok (next, after) => ⟨next, .ok after⟩
  | .error f => ⟨draft, .error f⟩

/-- Reads the value of a key into the draft, or passes over it. -/
def readKeyed (format : Format Member Draft α) (draft : Draft) (key : String)
    (text : List Char) : Progress Draft :=
  match format.members.find? fun m => format.key m == key with
  | none => ⟨draft, (readColon text).bind skipValue⟩
  | some m =>
    if format.has draft m then ⟨draft, .error (.misfit (.repeatedMember key))⟩
    else
      match readColon text with
      | .error f => ⟨draft, .error f⟩
      | .ok after => format.readMember m draft after

/-- Takes the end of an array off the text. -/
def readClose (text : List Char) : Except Fault (List Char) :=
  match skipSpace text with
  | ']' :: after => .ok after
  | other => .error (unexpected other)

/-- Reads the given members in order, as far as the array goes; `count` members have been
read before. -/
def readOrdered (format : Format Member Draft α) :
    List Member → Nat → Draft → List Char → Progress Draft
  | [], _, draft, text => ⟨draft, readClose text⟩
  | m :: members, count, draft, text =>
    match skipSpace text with
    | ']' :: after =>
      match format.finish draft with
      | .ok _ => ⟨draft, .ok after⟩
      | .error _ =>
        ⟨draft, .error (.misfit (.tooShort count format.title format.members.length))⟩
    | c :: rest =>
      if count = 0 || c == ',' then
        let p := format.readMember m draft (if count = 0 then c :: rest else rest)
        match p.left with
        | .error _ => p
        | .ok after => readOrdered format members (count + 1) p.state after
      else ⟨draft, .error .malformed⟩
    | [] => ⟨draft, .error .truncated⟩

/-- Reads a record into a draft. -/
def readDraft (format : Format Member Draft α) (text : List Char) : Progress Draft :=
  match skipSpace text with
  | '\x7b' :: rest => readObjectRest readText format.readKeyed format.empty rest
  | '[' :: rest => format.readOrdered format.members 0 format.empty rest
  | _ => ⟨format.empty, .error (refusal (.record format.title) text)⟩

/-- The record of a draft that has been read, with the text that is left. -/
def finishDraft (format : Format Member Draft α) (p : Progress Draft) :
    Except Fault (α × List Char) := do
  let after ← p.left
  match format.finish p.state with
  | .ok record => return (record, after)
  | .error m => .error (.misfit m)

/-- Reads a record. -/
def readRecord (format : Format Member Draft α) : Reader α := fun text =>
  format.finishDraft (format.readDraft text)

end Format

end SqlScribe.Json
