import SqlScribe.Number.Shortest
import SqlScribe.Text.Blank

/-!
# Values and rows

The values that a row can give to its columns.  A value has a text without quotes, and it
can be taken for a truth value or for a number: numbers other than zero are true, and a text
is read by the usual spellings of truth values or as a decimal number that is not too large
for a double.  A row gives values to some names, no name more than one; a value that is
inserted takes the place of the one that its name has.
-/

namespace SqlScribe

open Number

/-- A value for a column. -/
inductive Value where
  /-- No value. -/
  | null
  /-- A truth value. -/
  | bool (b : Bool)
  /-- An integer of 64 bits. -/
  | int (n : Int64)
  /-- A binary number of 64 bits. -/
  | float (x : Double)
  /-- A text. -/
  | text (s : String)
  deriving Repr, DecidableEq

namespace Value

/-- The text of a value, without quotes. -/
def display : Value → String
  | null => "NULL"
  | bool b => if b then "true" else "false"
  | int n => toString n.toInt
  | float x => Layout.plain.write x
  | text s => s

/-- The lower-case spellings of truth. -/
def trueNames : List String :=
  ["true", "t", "yes", "y", "on", "1"]

/-- The lower-case spellings of falsehood. -/
def falseNames : List String :=
  ["false", "f", "no", "n", "off", "0"]

/-- The truth value that a text spells, whatever the case of the ASCII letters and the blank
characters around it. -/
def boolOfText? (s : String) : Option Bool :=
  let lower := String.ofList ((Text.trim s.toList).map Char.toLower)
  if trueNames.contains lower then some true
  else if falseNames.contains lower then some false
  else none

/-- A value taken for a truth value. -/
def asBool? : Value → Option Bool
  | null => none
  | bool b => some b
  | int n => some (n != 0)
  | float x => some !x.isZero
  | text s => boolOfText? s

/-- The text without the blank characters around it, if it is a number that is not too large
for a double. -/
def numberOfText? (s : String) : Option String :=
  match Decimal.parse? (Text.trim s.toList) with
  | some d => if d.overflows then none else some (Text.trimmed s)
  | none => none

/-- A value taken for a number, as it is written without quotes. -/
def asNumber? : Value → Option String
  | null => none
  | bool b => some (if b then "1" else "0")
  | int n => some (toString n.toInt)
  | float x => if x.isFinite then some (Layout.plain.write x) else none
  | text s => numberOfText? s

/-- Whether a value is written as a null: there is none, or it is a number that SQL cannot
write. -/
def isNullLike : Value → Bool
  | null => true
  | float x => !x.isFinite
  | _ => false

end Value

/-- The values of one row. -/
structure Row where
  /-- The values with their names. -/
  cells : List (String × Value) := []
  /-- No name comes twice. -/
  nodup : (cells.map (·.1)).Nodup := by decide
  deriving Repr, DecidableEq

namespace Row

/-- A name is new where it has been taken out. -/
theorem nodup_insert (row : Row) (name : String) (v : Value) :
  ((row.cells.filter (fun cell => cell.1 != name) ++ [(name, v)]).map (·.1)).Nodup
  := by
  rw [List.map_append, List.nodup_append]
  constructor
  · exact row.nodup.sublist (List.filter_sublist.map _)
  constructor
  · simp
  · intro other hother last hlast
    obtain ⟨cell, hcell, rfl⟩ := List.mem_map.mp hother
    rw [List.mem_singleton.mp hlast]
    exact bne_iff_ne.mp (List.mem_filter.mp hcell).2

/-- The row in which a name has a given value. -/
def insert (row : Row) (name : String) (v : Value) : Row where
  cells := row.cells.filter (fun cell => cell.1 != name) ++ [(name, v)]
  nodup := row.nodup_insert name v

/-- The value of a name. -/
def get? (row : Row) (name : String) : Option Value :=
  row.cells.lookup name

/-- A name has the value with which it comes. -/
theorem get?_eq_some_iff {row : Row} {name : String} {v : Value} :
  row.get? name = some v ↔ (name, v) ∈ row.cells
  := by
  rw [get?, List.lookup_eq_some_iff]
  constructor
  · rintro ⟨before, after, hcells, -⟩
    rw [hcells]
    exact List.mem_append_right before List.mem_cons_self
  · intro h
    obtain ⟨before, after, hcells⟩ := List.append_of_mem h
    refine ⟨before, after, hcells, ?_⟩
    have hnames := row.nodup
    rw [hcells, List.map_append, List.nodup_append] at hnames
    intro cell hcell
    rw [bne_iff_ne]
    exact (hnames.2.2 cell.1 (List.mem_map_of_mem hcell) name List.mem_cons_self).symm

/-- The value that is inserted is the one that the name has. -/
theorem get?_insert_self (row : Row) (name : String) (v : Value) :
  (row.insert name v).get? name = some v
  := by
  rw [get?_eq_some_iff, insert]
  exact List.mem_append_right _ List.mem_cons_self

/-- The other names keep their values. -/
theorem get?_insert_of_ne (row : Row) {name other : String} (v : Value) (h : other ≠ name) :
  (row.insert name v).get? other = row.get? other
  := by
  apply Option.ext
  intro w
  rw [get?_eq_some_iff, get?_eq_some_iff, insert]
  simp [h]

end Row

end SqlScribe
