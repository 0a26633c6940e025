import Mathlib.Data.List.Nodup
import SqlScribe.Proofs.Schema.FirstDefect
import SqlScribe.Statement.CreateTable

/-!
# Names of sequences and triggers

The names of the sequences and triggers that count up the fields of a table are made from the
upper-case forms of the names of the fields.  All else in them is the same for a table, so they
differ exactly where these upper-case forms differ (`nodup_createdNames_iff`).  Fields of a table
without a defect have different names, but that is not enough: names that differ in case alone, or
in how a letter is spelled that has no upper-case form of its own, make one name for two sequences
(`createdNames_collide`).
-/

namespace SqlScribe.Statement

open Text

/-- The names of the sequences that are created after a table. -/
def createdSequences (t : Table) : List String :=
  (supplementsOf t).filterMap fun
    | .sequence name => some name
    | _ => none

/-- The names of the triggers that are created after a table. -/
def createdTriggers (t : Table) : List String :=
  (supplementsOf t).filterMap fun
    | .trigger name _ _ _ => some name
    | _ => none

/-- No two counted fields of the table have names with the same upper-case form. -/
def HasDistinctCounters (t : Table) : Prop :=
  ∀ f ∈ t.autoIncrementFields, ∀ g ∈ t.autoIncrementFields,
    upperCase f.name = upperCase g.name → f = g

instance (t : Table) : Decidable (HasDistinctCounters t) :=
  inferInstanceAs (Decidable (∀ f ∈ t.autoIncrementFields, ∀ g ∈ t.autoIncrementFields,
    upperCase f.name = upperCase g.name → f = g))

variable {t : Table}

/-- A sequence and a trigger are created for each counted field. -/
theorem created_eq_map (hd : t.dialect = .oracle) :
  createdSequences t = t.autoIncrementFields.map (fun f => sequenceName t.name f.name)
    ∧ createdTriggers t = t.autoIncrementFields.map (fun f => triggerName t.name f.name)
  := by
  rw [createdSequences, createdTriggers, supplementsOf, hd]
  dsimp only
  induction t.autoIncrementFields with
  | nil => exact ⟨rfl, rfl⟩
  | cons f fields ih => simp [List.flatMap_cons, ih]

/-- Upper-case forms that begin with the same text differ if and only if what follows differs. -/
theorem upperCase_append_inj {start a b : String} :
  upperCase (start ++ a) = upperCase (start ++ b) ↔ upperCase a = upperCase b
  := by
  rw [upperCase_append, upperCase_append]
  exact String.append_right_inj _

/-- The fields of a table without a defect are different. -/
theorem nodup_autoIncrementFields (h : t.defect? = none) :
  t.autoIncrementFields.Nodup
  := (Table.nodup_names h).of_map.filter _

/-- The sequences of an accepted table have different names, and so have its triggers, if and only
if no two counted fields have names with the same upper-case form. -/
theorem nodup_createdNames_iff (t : Table) (hd : t.dialect = .oracle) (h : t.defect? = none) :
  ((createdSequences t).Nodup ↔ HasDistinctCounters t)
    ∧ ((createdTriggers t).Nodup ↔ HasDistinctCounters t)
  := by
  have hfields := nodup_autoIncrementFields h
  obtain ⟨hsequences, htriggers⟩ := created_eq_map hd
  rw [hsequences, htriggers, List.nodup_map_iff_inj_on hfields, List.nodup_map_iff_inj_on hfields]
  simp only [sequenceName, triggerName, upperCase_append_inj, HasDistinctCounters, and_self]

/-- Names that differ in more than case. -/
theorem nodup_createdNames_umlaut :
  let t : Table :=
    { name := "a_b"
      fields := [{ name := "größe", type := .int, autoIncrement := true },
        { name := "große", type := .bigInt, autoIncrement := true },
        { name := "GROSSE", type := .int }]
      dialect := .oracle }
  createdSequences t = ["SEQ_A_B_GRÖSSE", "SEQ_A_B_GROSSE"] ∧ (createdSequences t).Nodup
    ∧ (createdTriggers t).Nodup
  := by
  intro t
  have hdistinct : HasDistinctCounters t := by decide +kernel
  obtain ⟨hsequences, htriggers⟩ := nodup_createdNames_iff t rfl (by decide)
  exact ⟨by decide +kernel, hsequences.mpr hdistinct, htriggers.mpr hdistinct⟩

/-- Two counted columns of a table without a defect have names that differ in case alone: a sequence
is created twice, and the trigger of one column replaces that of the other. -/
theorem createdNames_collide :
  let t : Table :=
    { name := "t"
      fields := [{ name := "id", type := .int, autoIncrement := true },
        { name := "ID", type := .int, autoIncrement := true }]
      dialect := .oracle }
  t.defect? = none ∧ createdSequences t = ["SEQ_T_ID", "SEQ_T_ID"]
    ∧ createdTriggers t = ["TRG_T_ID", "TRG_T_ID"]
  := by
  decide +kernel

end SqlScribe.Statement
