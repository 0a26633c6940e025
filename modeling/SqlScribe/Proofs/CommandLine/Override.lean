import SqlScribe.Proofs.CommandLine.Generation
import SqlScribe.Proofs.Document.DialectMember

/-!
# Dialects that are given

Giving a dialect to a command does what setting it in the document of the table does: both
generations have the same output and the same exit code (`run_generation`).  The one document that
is changed can also be asked for as the rows; but the document of a table is never one of rows
(`listOfJson_of_ofJson`), so both fail then.
-/

namespace SqlScribe

open Json

variable {text : String} {t : Table}

/-! ### Tables and rows -/

theorem exists_of_isValue_string {v : List Char} {s : String} (h : IsValue readString v s)
    (ho : Opens ']' v) :
  ∃ more, v = '"' :: more
  := by
  obtain ⟨c, more, rfl, hspace, -⟩ := ho
  have hread := h.reads [] ends_nil
  rw [List.append_nil] at hread
  unfold readString at hread
  rw [skipSpace_cons hspace] at hread
  split at hread
  · next heq =>
    cases heq
    use more
  · cases hread

/-- What begins a string begins no row. -/
theorem readList_readRow_string {b : List Char} (hb : AllSpace b) (more : List Char) :
  ∃ fault, readList readRow ('[' :: (b ++ '"' :: more)) = .error fault
  := by
  have hstep : elementStep readRow [] ('"' :: more)
      = ⟨[], .error (refusal .map ('"' :: more))⟩ := rfl
  have hloop : readEnclosed ']' (elementStep readRow) [] (b ++ '"' :: more)
      = ⟨[], .error (refusal .map ('"' :: more))⟩ := by
    rw [readEnclosed, skipSpace_append_cons hb (by decide)]
    simp only [readItems, hstep]
    rw [if_neg (by decide)]
  use refusal .map ('"' :: more)
  rw [readList_cons, hloop]
  rfl

/-- The document of a table is not that of rows. -/
theorem listOfJson_of_ofJson (h : Table.ofJson text = .ok t) :
  ∃ fault, Row.listOfJson text = .error fault
  := by
  obtain ⟨draft, a, s, b, ha, hs, -, ht, hfinish⟩ := exists_of_ofJson h
  suffices hlist : ∃ fault, readList readRow (s ++ b) = .error fault by
    obtain ⟨fault, hfault⟩ := hlist
    use fault
    rw [Row.listOfJson, readDocument, ht, ignoresSpace_list _ _ ha, hfault]
    rfl
  cases hs with
  | object h => exact ⟨_, rfl⟩
  | array h =>
    cases h with
    | empty hb => cases hfinish
    | @first _ _ _ _ b' v content hm hb ho hv tail =>
      cases hm
      obtain ⟨name, -, hname⟩ := isValue_name_iff.mp hv
      obtain ⟨more, rfl⟩ := exists_of_isValue_string hname (ho.of_append hv.ne_nil)
      have hrow := readList_readRow_string hb (more ++ (content ++ b))
      simpa using hrow

end SqlScribe

namespace SqlScribe.CommandLine

/-- Surroundings where a file has another text, and where no variable gives a dialect. -/
def Surroundings.withText (w : Surroundings) (path text : String) : Surroundings where
  file := fun path' => if path' = path then .ok text.toUTF8 else w.file path'
  input := w.input
  dialect := none

theorem decode_toUTF8 (text : String) :
  decode text.toUTF8 = .ok text
  := by
  have htext : String.fromUTF8? text.toUTF8 = some text := by
    unfold String.fromUTF8?
    rw [String.toUTF8_eq_toByteArray, dif_pos text.isValidUTF8]
    rfl
  rw [decode, htext]

theorem readFile_withText (w : Surroundings) (path text : String) :
  (w.withText path text).readFile path = .ok text
  := by
  simp only [Surroundings.readFile, Surroundings.withText, if_true, Except.bind, decode_toUTF8]

theorem readFile_withText_of_ne (w : Surroundings) {path path' : String} (h : path' ≠ path)
    (text : String) :
  (w.withText path text).readFile path' = w.readFile path'
  := by
  simp [Surroundings.readFile, Surroundings.withText, h]

variable {w : Surroundings} {g : Generation}

/-- The generation without a dialect in the arguments. -/
def Generation.withoutDialect (g : Generation) : Generation :=
  { g with dialect := none }

/-- Two runs that fail both, or come to the same result, write the same. -/
theorem run_eq_of_result {w w' : Surroundings} {c c' : Command} (verbose : Bool)
    (h : (execute w' c').result = (execute w c).result
      ∨ ∃ f f', (execute w c).result = .error f ∧ (execute w' c').result = .error f') :
  (run w' ⟨verbose, c'⟩).output = (run w ⟨verbose, c⟩).output
    ∧ (run w' ⟨verbose, c'⟩).exitCode = (run w ⟨verbose, c⟩).exitCode
  := by
  rcases h with h | ⟨f, f', h, h'⟩
  · simp only [run, h]
    cases (execute w c).result with
    | ok output => exact ⟨rfl, rfl⟩
    | error f => exact ⟨rfl, rfl⟩
  · simp only [run, h, h']
    exact ⟨trivial, trivial⟩

/-- Loading the document with the dialect set comes to what loading with the dialect given does. -/
theorem result_loadTable_withText {name text text' : String} {t : Table}
    (hname : g.given w = some name) (hread : w.readFile g.table = .ok text)
    (hdecode : Table.ofJson text = .ok t)
    (hdecode' : Table.ofJson text' = .ok (t.withDialect (Dialect.ofNameOrDefault name))) :
  (loadTable (w.withText g.table text') g.withoutDialect.table g.withoutDialect.dialect).result
    = (loadTable w g.table g.dialect).result
  := by
  have htarget : g.target w t = t.withDialect (Dialect.ofNameOrDefault name) := by
    rw [Generation.target, hname]
    rfl
  have htarget' : ∀ t', g.withoutDialect.target (w.withText g.table text') t' = t' := by
    intro t'
    rfl
  have hread' : (w.withText g.table text').readFile g.withoutDialect.table = .ok text' :=
    readFile_withText w g.table text'
  rw [result_loadTable, result_loadTable, hread, hread']
  simp only [hdecode, hdecode', htarget, htarget']
  rfl

theorem result_loadRows_of_ofJson {path text : String} {t : Table}
    (hread : w.readFile path = .ok text) (hdecode : Table.ofJson text = .ok t) :
  ∃ f, (loadRows w path).result = .error f
  := by
  obtain ⟨fault, hfault⟩ := listOfJson_of_ofJson hdecode
  use .document path fault
  rw [result_loadRows, hread]
  simp only [hfault]

/-- A generation with a dialect given comes to the same result as the one without it whose document
has the dialect set, or both fail. -/
theorem result_execute_withText {name text text' : String} {t : Table}
    (hname : g.given w = some name) (hread : w.readFile g.table = .ok text)
    (hdecode : Table.ofJson text = .ok t)
    (hdecode' : Table.ofJson text' = .ok (t.withDialect (Dialect.ofNameOrDefault name))) :
  (execute (w.withText g.table text') g.withoutDialect.command).result
      = (execute w g.command).result
    ∨ ∃ f f', (execute w g.command).result = .error f
      ∧ (execute (w.withText g.table text') g.withoutDialect.command).result = .error f'
  := by
  have hload := result_loadTable_withText hname hread hdecode hdecode'
  cases hrows : g.rows with
  | none =>
    have hrows' : g.withoutDialect.rows = none := hrows
    left
    rw [result_execute_create hrows, result_execute_create hrows', hload]
  | some path =>
    have hrows' : g.withoutDialect.rows = some path := hrows
    rw [result_execute_insert hrows, result_execute_insert hrows', hload]
    by_cases hpath : path = g.table
    · subst hpath
      obtain ⟨f, hf⟩ := result_loadRows_of_ofJson hread hdecode
      obtain ⟨f', hf'⟩ := result_loadRows_of_ofJson (readFile_withText w g.table text') hdecode'
      cases (loadTable w g.table g.dialect).result with
      | error f₀ =>
        left
        rfl
      | ok t =>
        right
        use f, f'
        simp only [Except.bind, hf, hf', and_self]
    · left
      rw [result_loadRows, result_loadRows, readFile_withText_of_ne w hpath]

/-- Generation is all or nothing, and giving a dialect to it is the same as setting the dialect in
the document of the table. -/
theorem run_generation (w : Surroundings) (verbose : Bool) (g : Generation) :
  (∀ s f, g.Fails w s f → ∃ f', g.FirstFails w f' ∧ (run w ⟨verbose, g.command⟩).FailsWith f')
    ∧ ((∀ s f, ¬ g.Fails w s f) →
      ∃ output, g.Yields w output ∧ (run w ⟨verbose, g.command⟩).Writes output)
    ∧ ∀ name text t, g.given w = some name → w.readFile g.table = .ok text →
      Table.ofJson text = .ok t → ∃ text', Table.setDialect name text = .ok text'
        ∧ (run (w.withText g.table text') ⟨verbose, g.withoutDialect.command⟩).output
          = (run w ⟨verbose, g.command⟩).output
        ∧ (run (w.withText g.table text') ⟨verbose, g.withoutDialect.command⟩).exitCode
          = (run w ⟨verbose, g.command⟩).exitCode
  := by
  have hcases := settles_run w verbose g
  constructor
  · intro s f hfails
    rcases hcases with hfirst | ⟨hwell, -⟩
    · apply hfirst
    · exact absurd hfails (hwell s f)
  constructor
  · intro hwell
    rcases hcases with ⟨f, ⟨before, s, after, -, hfails, -⟩, -⟩ | ⟨-, houtput⟩
    · exact absurd hfails (hwell s f)
    · apply houtput
  · intro name text t hname hread hdecode
    obtain ⟨text', hset, hdecode'⟩ := ofJson_setDialect hdecode name
    use text', hset
    apply run_eq_of_result verbose
    apply result_execute_withText hname hread hdecode hdecode'

/-- A name that no dialect has is given where the variable gives another one, for a document without
a dialect; the rows that are asked for are missing. -/
theorem run_generation_unknown_name :
  let text := "[\"t\", [\x7b\"name\": \"a\", \"type\": \"int\"\x7d]]"
  let t : Table := { name := "t", fields := [{ name := "a", type := .int }] }
  let w : Surroundings :=
    { file := fun path => if path = "t.json" then .ok text.toUTF8 else .error .missing
      input := .error .missing
      dialect := some "oracle" }
  let g : Generation := ⟨"t.json", some "rows.json", some "db2"⟩
  (g.Fails w .readRows (.file "rows.json" .missing)
      ∧ ∃ f', g.FirstFails w f' ∧ (run w ⟨false, g.command⟩).FailsWith f')
    ∧ ((∀ s f, ¬ (Generation.mk "t.json" none none).Fails w s f)
      ∧ ∃ output, (Generation.mk "t.json" none none).Yields w output
        ∧ (run w ⟨true, .ddl "t.json" none⟩).Writes output)
    ∧ (g.given w = some "db2" ∧ w.readFile "t.json" = .ok text ∧ Table.ofJson text = .ok t
      ∧ ∃ text', Table.setDialect "db2" text = .ok text'
        ∧ (run (w.withText "t.json" text') ⟨false, g.withoutDialect.command⟩).output
          = (run w ⟨false, g.command⟩).output
        ∧ (run (w.withText "t.json" text') ⟨false, g.withoutDialect.command⟩).exitCode
          = (run w ⟨false, g.command⟩).exitCode)
  := by
  have hdecode : Table.ofJson "[\"t\", [\x7b\"name\": \"a\", \"type\": \"int\"\x7d]]"
      = .ok { name := "t", fields := [{ name := "a", type := .int }] } := rfl
  have hdefect : Table.defect?
      { name := "t"
        fields := [{ name := "a", type := .int }]
        dialect := Dialect.ofNameOrDefault "oracle" } = none := rfl
  intro text t w g
  have hread : w.readFile "t.json" = .ok text := readFile_withText w "t.json" text
  have hmissing : g.Fails w .readRows (.file "rows.json" .missing) := .readRows rfl rfl
  have hwell : ∀ s f, ¬ (Generation.mk "t.json" none none).Fails w s f := by
    intro s
    cases s with
    | readTable => apply goesWell_readTable hread
    | decodeTable => apply goesWell_decodeTable hread hdecode
    | validate => exact goesWell_validate hread hdecode hdefect
    | readRows => apply (goesWell_rows_of_none rfl).1
    | decodeRows => apply (goesWell_rows_of_none rfl).2
  constructor
  · exact ⟨hmissing, (run_generation w false g).1 _ _ hmissing⟩
  constructor
  · exact ⟨hwell, (run_generation w true ⟨"t.json", none, none⟩).2.1 hwell⟩
  · exact ⟨rfl, hread, hdecode, (run_generation w false g).2.2 "db2" text t rfl hread hdecode⟩

end SqlScribe.CommandLine
