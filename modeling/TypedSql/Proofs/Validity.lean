import TypedSql.Proofs.Faults
import TypedSql.Validation

/-!
# Validated inserts render

The validator goes through all columns of a table, and rendering goes through the columns that
an insert writes. They agree on what a column can store: a cell with which nothing is wrong is
NULL or passes the codec of its column (`Validation.storable_of_cellCause?`), and a missing cell
is written as NULL. So no value of a validated insert fails its codec.

What is left are inserts with nothing to write. `Insert.renders_of_valid` states this of an
insert as it is built: from records that are resolved against the table, and after any calls that
choose what it returns.
-/

set_option autoImplicit false

namespace TypedSql

open Outcome

/-! ## What the validator accepts -/

namespace Validation

/-- A record that belongs into a table: its keys are columns, and nothing is wrong with a
cell. -/
structure Accepts (table : Table) (record : Record) : Prop where
  known : ∀ key ∈ record.keys, ∃ column ∈ table.columns, column.name = key
  cells : ∀ column ∈ table.columns, cellCause? record column = none

variable {table : Table} {record : Record} {column : Column}

theorem recordIssues_eq_nil_iff {row : Nat} :
    recordIssues table row record = [] ↔ Accepts table record := by
  have known : unknownKeys table row record = [] ↔
      ∀ key ∈ record.keys, ∃ column ∈ table.columns, column.name = key := by
    simp [unknownKeys]
  have cells : columnIssues table row record = [] ↔
      ∀ column ∈ table.columns, cellCause? record column = none := by
    simp [columnIssues]
  rw [recordIssues, List.append_eq_nil_iff, known, cells]
  exact ⟨fun both => ⟨both.1, both.2⟩, fun accepts => ⟨accepts.known, accepts.cells⟩⟩

theorem issuesFrom_eq_nil_iff {row : Nat} {records : List Record} :
    issuesFrom table row records = [] ↔ ∀ record ∈ records, Accepts table record := by
  induction records generalizing row with
  | nil => simp [issuesFrom]
  | cons record rest ih =>
      rw [issuesFrom, List.append_eq_nil_iff, recordIssues_eq_nil_iff, ih, List.forall_mem_cons]

/-- Records pass when each of them belongs into the table. -/
theorem check_eq_ok_iff {records : List Record} :
    check table records = .ok () ↔ ∀ record ∈ records, Accepts table record := by
  rw [← @issuesFrom_eq_nil_iff table 0, check, issues]
  cases issuesFrom table 0 records <;> simp

/-- A column that the database does not number can store a cell with which nothing is wrong. -/
theorem storable_of_cellCause? (written : column.autoincrement = false)
    (faultless : cellCause? record column = none) :
    ∃ stored, Codec.encode column.type ((record.get? column.name).getD .null) = .ok stored := by
  generalize cell : (record.get? column.name).getD .null = value
  by_cases absent : value = .null
  · subst absent
    exact ⟨.null, by cases column.type <;> rfl⟩
  · have isNull : value.isNull = false := by
      cases value <;> first | rfl | exact absurd rfl absent
    simp only [cellCause?, cell, written, isNull, Bool.false_eq_true, if_false,
      valueCause?] at faultless
    cases encoded : Codec.encode column.type value with
    | ok stored => exact ⟨stored, rfl⟩
    | error cause =>
        rw [encoded] at faultless
        cases faultless

end Validation

/-! ## Inserts as they are built -/

namespace Insert

/-- A call that chooses what an insert returns. -/
inductive Step where
  | returning (names : List String)
  | returningNothing

/-- What a call answers. -/
def Step.apply (insert : Insert) : Step → Except ResolutionError Insert
  | returning names => insert.returning names
  | returningNothing => .ok insert.returningNothing

/-- The insert in use after a call, which is the same one if the call is refused. -/
def Step.next (insert : Insert) (step : Step) : Insert :=
  match step.apply insert with
  | .ok next => next
  | .error _ => insert

/-- The insert in use after calls one after another. -/
def run (insert : Insert) (steps : List Step) : Insert := steps.foldl Step.next insert

/-- The insert of records into a table, after calls that choose what it returns. -/
def build (supply : Supply) (table : Table) (records : List Record) (calls : Calls)
    (steps : List Step) : Insert :=
  (ofRecords supply table records calls).1.run steps

variable {insert next : Insert}

/-- A call keeps the table and the records. -/
theorem Step.keeps (step : Step) :
    (step.next insert).table = insert.table ∧ (step.next insert).records = insert.records := by
  rw [next]
  split
  case h_2 => exact ⟨rfl, rfl⟩
  case h_1 next answered =>
    cases step with
    | returning names =>
        obtain ⟨outputs, _, rfl⟩ := bind_pure_eq_ok.mp answered
        exact ⟨rfl, rfl⟩
    | returningNothing =>
        cases answered
        exact ⟨rfl, rfl⟩

/-- Any sequence of calls keeps the table and the records. -/
theorem run_keeps (steps : List Step) :
    (insert.run steps).table = insert.table ∧ (insert.run steps).records = insert.records := by
  induction steps generalizing insert with
  | nil => exact ⟨rfl, rfl⟩
  | cons step rest ih =>
      obtain ⟨table, records⟩ := @ih (step.next insert)
      exact ⟨table.trans step.keeps.1, records.trans step.keeps.2⟩

section

variable (supply : Supply) (table : Table) (records : List Record) (calls : Calls)
  (steps : List Step)

@[simp] theorem build_table : (build supply table records calls steps).table = table :=
  (run_keeps steps).1

@[simp] theorem build_records : (build supply table records calls steps).records =
    (resolveRecords supply table.insertShape records calls).1 :=
  (run_keeps steps).2

theorem length_resolveRecords (shape : List Column) :
    (resolveRecords supply shape records calls).1.length = records.length := by
  induction records generalizing calls with
  | nil => rfl
  | cons record rest ih => simp [resolveRecords, ih]

end

/-! ## Rendering -/

/-- An insert writes the columns that the database does not number. -/
theorem mem_insertShape_iff {table : Table} {column : Column} :
    column ∈ table.insertShape ↔ column ∈ table.columns ∧ column.autoincrement = false := by
  rw [Table.insertShape, List.mem_filter, Bool.not_eq_true']

/-- No cell of a validated insert fails its codec. -/
theorem fits_of_check (valid : Validation.check insert.table insert.records = .ok ()) :
    ∀ cell ∈ insert.cells, cell.Fits := by
  intro cell member
  obtain ⟨entry, inRecords, inRow⟩ := List.mem_flatMap.mp member
  obtain ⟨column, inShape, rfl⟩ := List.mem_map.mp inRow
  have accepts := Validation.check_eq_ok_iff.mp valid entry.1 (List.fst_mem_of_mem_zipIdx inRecords)
  obtain ⟨isColumn, written⟩ := mem_insertShape_iff.mp inShape
  exact Validation.storable_of_cellCause? written (accepts.cells column isColumn)

/-- An insert whose cells fit can only fail for having nothing to write. -/
theorem faults_of_fits (fits : ∀ cell ∈ insert.cells, cell.Fits) :
    insert.faults =
      if insert.records.isEmpty then [.empty (.noRecords insert.table.name)]
      else if insert.table.insertShape.isEmpty && 1 < insert.records.length then
        [.empty (.noInsertableColumns insert.table.name)]
      else [] := by
  have cells : insert.cells.flatMap Cell.faults = [] := by
    rw [List.flatMap_eq_nil_iff]
    exact fun cell member => Codec.faults_eq_nil_iff_exists.mpr (fits cell member)
  rw [faults, valueFaults, cells]

/-- **A validated insert renders**, unless it has no records, or several of them and no column to
write. It never fails for a value. -/
theorem renders_of_valid (dialect : Dialect) (supply : Supply) (table : Table)
    (records : List Record) (calls : Calls) (steps : List Step)
    (valid : Validation.check (build supply table records calls steps).table
      (build supply table records calls steps).records = .ok ()) :
    let rendered := (Statement.insert (build supply table records calls steps)).compile dialect
    (∀ failure, rendered ≠ .error (.codec failure)) ∧
      (records = [] → rendered = .error (.empty (.noRecords table.name))) ∧
      (table.insertShape = [] → 1 < records.length →
        rendered = .error (.empty (.noInsertableColumns table.name))) ∧
      (records ≠ [] → (table.insertShape = [] → records.length ≤ 1) →
        ∃ compiled, rendered = .ok compiled) := by
  intro rendered
  have length : (build supply table records calls steps).records.length = records.length := by
    rw [build_records, length_resolveRecords]
  have faults : (Statement.insert (build supply table records calls steps)).faults =
      if records.isEmpty then [.empty (.noRecords table.name)]
      else if table.insertShape.isEmpty && 1 < records.length then
        [.empty (.noInsertableColumns table.name)]
      else [] := by
    refine (faults_of_fits (fits_of_check valid)).trans ?_
    simp only [length, build_table, List.isEmpty_iff_length_eq_zero]
  have answered : rendered = answer _ _ := Statement.compile_eq_answer dialect _
  rw [faults] at answered
  refine ⟨?_, ?_, ?_, ?_⟩
  · intro failure failed
    rw [answered, answer_eq_error_iff] at failed
    split at failed
    · cases failed
    · split at failed <;> cases failed
  · rintro rfl
    exact answered
  · intro empty several
    have nonempty : records.isEmpty = false := by
      cases records with
      | nil => cases several
      | cons => rfl
    rw [answered, nonempty, empty]
    simp [several, answer]
  · intro nonempty few
    have left : (table.insertShape.isEmpty && decide (1 < records.length)) = false := by
      cases shape : table.insertShape with
      | nil => simpa using few shape
      | cons => rfl
    rw [answered, left, List.isEmpty_eq_false_iff.mpr nonempty]
    exact ⟨_, rfl⟩

/-- Jobs with a number from the database, a state with a default, and a place from a producer. -/
def jobSpecs : List ColumnSpec :=
  [{ name := "id", type := .integer, primaryKey := true, autoincrement := true },
    { name := "jobState", type := .varchar, default := some (.fixed (.text "queued")),
      size := some 8 },
    { name := "place", type := .float, default := some (.producer ⟨0⟩) }]

/-- Every producer counts its calls. -/
def countingSupply : Supply := fun _ count => .integer (Int64.ofNat count)

/-- Two jobs, of which one has a state only and the other a place only, fit and render. -/
theorem renders_of_valid_jobs : ∃ table, Table.define "jobs" jobSpecs = .ok table ∧
    let insert := build countingSupply table
      [Dictionary.empty.insert "jobState" (.text "running"),
        (Dictionary.empty.insert "jobState" .null).insert "place" (.integer 7)]
      Calls.none [.returning ["id"], .returning ["none"]]
    Validation.check insert.table insert.records = .ok () ∧
      ∃ compiled, (Statement.insert insert).compile .sqlite = .ok compiled :=
  ⟨_, rfl, rfl, (renders_of_valid .sqlite countingSupply _ _ Calls.none _ rfl).2.2.2
    (List.cons_ne_nil _ _) (fun empty => nomatch empty)⟩

end Insert

end TypedSql
