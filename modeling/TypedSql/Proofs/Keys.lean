import Mathlib.Data.List.Basic
import TypedSql.Proofs.ColumnNames
import TypedSql.Proofs.TableText

/-!
# Key clauses of defined tables

A definition may declare any number of its columns as primary keys, and a column that the
database numbers need not be one of them. The text says of each column what was declared: the
words for a primary key stand once in the definition of every column that is declared as one,
and in no other (`CreateTable.keys_as_declared`).

The words for a numbered column stand directly behind those for a primary key wherever the
column is one.
-/

set_option autoImplicit false

namespace TypedSql

/-! ## Key clauses as they are read -/

/-- Every clause for a numbered column stands directly behind one for a primary key. -/
def Clause.NumbersKeys (clauses : List Clause) : Prop :=
  ∀ before after, clauses = before ++ autoincrement :: after → before.getLast? = some primaryKey

/-- Whether the definition of a column makes it a primary key. -/
def ColumnText.isKey (column : ColumnText) : Bool := column.clauses.contains .primaryKey

/-- At most one column is a primary key, and no other column is numbered. -/
structure TableText.HasOneKey (read : TableText) : Prop where
  single : (read.columns.filter (·.isKey)).length ≤ 1
  numbered : ∀ column ∈ read.columns, Clause.NumbersKeys column.clauses

/-- The key clauses of a column are those of its declaration. -/
structure ColumnText.HasKeysOf (spec : ColumnSpec) (column : ColumnText) : Prop where
  name : column.name = spec.sqlName
  key : column.clauses.count .primaryKey = if spec.primaryKey then 1 else 0
  numbered : .autoincrement ∈ column.clauses → spec.autoincrement = true
  numbersKeys : spec.primaryKey = true → Clause.NumbersKeys column.clauses

namespace Column

/-- Behind its key clauses a column has none. -/
theorem clauses_eq (column : Column) : ∃ others, column.clauses =
    Clause.primaryKey.onlyIf column.primaryKey ++
      (Clause.autoincrement.onlyIf column.autoincrement ++ others) ∧
    .primaryKey ∉ others ∧ .autoincrement ∉ others := by
  refine ⟨_, rfl, ?_, ?_⟩ <;> simp [Clause.onlyIf]

theorem count_primaryKey (column : Column) :
    column.clauses.count .primaryKey = if column.primaryKey then 1 else 0 := by
  obtain ⟨others, same, absent, -⟩ := column.clauses_eq
  rw [same, List.count_append, List.count_append, List.count_eq_zero.mpr absent]
  cases column.primaryKey <;> cases column.autoincrement <;> rfl

theorem numbersKeys {column : Column} (isKey : column.primaryKey = true) :
    Clause.NumbersKeys column.clauses := by
  obtain ⟨others, same, -, absent⟩ := column.clauses_eq
  intro before after split
  rw [same, isKey] at split
  cases numbered : column.autoincrement with
  | false =>
      have member : Clause.autoincrement ∈ before ++ .autoincrement :: after := by simp
      rw [← split, numbered] at member
      simp [Clause.onlyIf, absent] at member
  | true =>
      rw [numbered] at split
      have first : [Clause.primaryKey] ++ .autoincrement :: others =
          before ++ .autoincrement :: after := split
      rw [List.append_cons_inj_of_notMem (by simp) absent] at first
      rw [← first.1]
      rfl

theorem hasKeysOf (dialect : Dialect) (column : Column) :
    (column.text dialect).HasKeysOf column.toColumnSpec where
  name := rfl
  key := column.count_primaryKey
  numbered member := by
    have read := congrArg ColumnSummary.autoincrement (column.summary_text dialect)
    exact read.symm.trans (List.contains_iff_mem.mpr member)
  numbersKeys := column.numbersKeys

end Column

/-! ## The keys of a text -/

variable {dialect : Dialect} {name : String} {specs : List ColumnSpec} {create : CreateTable}
  {compiled : Compiled}

/-- **The key clauses of a defined table are those that were declared.** In the dialect of SQLite
and in the generic one a column is written as a primary key once if it is declared as one, and
not at all otherwise. So as many definitions have the words as columns are declared so. Only a
column that is declared so is numbered, and its number follows the key where it is one. -/
theorem CreateTable.keys_as_declared (known : dialect = .sqlite ∨ dialect = .generic)
    (defined : Table.define name specs = .ok create.table)
    (rendered : (Statement.createTable create).compile dialect = .ok compiled) :
    ∃ read, TableText.ofText? compiled.text = some read ∧
      List.Forall₂ (fun spec column => column.HasKeysOf spec) specs read.columns ∧
      (read.columns.filter (·.isKey)).length = (specs.filter (·.primaryKey)).length := by
  obtain ⟨-, -, -, same⟩ := Table.define_eq_ok_iff.mp defined
  have columns : create.table.columns.map (·.text dialect) =
      specs.map fun spec => Column.text dialect ⟨spec, name⟩ := by
    rw [same, List.map_map]
    rfl
  refine ⟨_, ofText?_text known rendered, ?_, ?_⟩
  · rw [columns, List.forall₂_map_right_iff, List.forall₂_same]
    exact fun spec _ => Column.hasKeysOf dialect ⟨spec, name⟩
  · rw [columns, List.filter_map, List.length_map]
    refine congrArg List.length (List.filter_congr fun spec _ => ?_)
    exact congrArg ColumnSummary.primaryKey (Column.summary_text dialect ⟨spec, name⟩)

/-- The key and the other column of the backups in the generic dialect. -/
theorem CreateTable.keys_as_declared_backups : ∃ table compiled read,
    Table.define "backups" Table.backupSpecs = .ok table ∧
      (Statement.createTable { table }).compile .generic = .ok compiled ∧
      TableText.ofText? compiled.text = some read ∧
      (read.columns.filter (·.isKey)).length = 1 := by
  have defined : Table.define "backups" Table.backupSpecs =
      .ok ⟨"backups", Table.backupSpecs.map fun spec => ⟨spec, "backups"⟩⟩ := rfl
  have rendered : (Statement.createTable
      { table := ⟨"backups", Table.backupSpecs.map fun spec => ⟨spec, "backups"⟩⟩ }).compile
        .generic = .ok _ := rfl
  obtain ⟨read, ofText, -, keys⟩ := keys_as_declared (.inr rfl) defined rendered
  exact ⟨_, _, read, defined, rendered, ofText, keys⟩

/-- The text of an accepted table may have two primary keys, and a numbered column that is
none. -/
theorem CreateTable.not_hasOneKey : ∃ pairs counters onPairs onCounters readPairs readCounters,
    Table.define "pairs" [{ name := "a", type := .integer, primaryKey := true },
      { name := "b", type := .integer, primaryKey := true }] = .ok pairs ∧
    (Statement.createTable { table := pairs }).compile .sqlite = .ok onPairs ∧
    onPairs.text =
      "CREATE TABLE \"pairs\" (\"a\" INTEGER PRIMARY KEY ASC, \"b\" INTEGER PRIMARY KEY ASC);" ∧
    TableText.ofText? onPairs.text = some readPairs ∧ ¬ readPairs.HasOneKey ∧
    Table.define "counters" [{ name := "id", type := .integer, autoincrement := true }] =
      .ok counters ∧
    (Statement.createTable { table := counters }).compile .sqlite = .ok onCounters ∧
    onCounters.text = "CREATE TABLE \"counters\" (\"id\" INTEGER AUTOINCREMENT);" ∧
    TableText.ofText? onCounters.text = some readCounters ∧ ¬ readCounters.HasOneKey := by
  refine ⟨_, _, _, _, _, _, rfl, rfl, rfl, rfl, ?twice, rfl, rfl, rfl, rfl, ?keyless⟩
  case twice => exact fun hasOneKey => absurd hasOneKey.single (by decide)
  case keyless =>
    intro hasOneKey
    have behind := hasOneKey.numbered _ List.mem_cons_self [] [] rfl
    cases behind

end TypedSql
