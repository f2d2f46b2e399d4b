import TypedSql.Engine.Table
import TypedSql.Proofs.Faults
import TypedSql.Proofs.Refusal
import TypedSql.Proofs.SnakeCase

/-!
# The names of the columns of a table

The columns of an accepted table have different names, and different ones also in SQL. So the
column of a name is found, and it is the one that was declared, in the table and under every
alias of it, also under one alias after another (`Table.IsSeenAs`).

A statement that creates the table or inserts into it writes these columns as identifiers
(`Fragment.names`). A name in snake case has no capitals, so the identifiers differ also for a
database that ignores case (`Table.nodup_caseless`).

`Table.define_decides` collects what defining a table comes to.
-/

set_option autoImplicit false

namespace TypedSql

open Fragment Outcome

/-! ## Names among fragments -/

namespace Fragment

/-- The name that a fragment writes as an identifier. -/
def name? : Fragment → Option String
  | identifier name => some name
  | _ => none

/-- The names that fragments write as identifiers, in the order of the text. -/
def names (fragments : List Fragment) : List String := fragments.filterMap name?

@[simp] theorem names_nil : names [] = [] := rfl

@[simp] theorem names_word (text : String) (rest : List Fragment) :
    names (word text :: rest) = names rest := rfl

@[simp] theorem names_identifier (name : String) (rest : List Fragment) :
    names (identifier name :: rest) = name :: names rest := rfl

@[simp] theorem names_inline (value : Stored) (rest : List Fragment) :
    names (inline value :: rest) = names rest := rfl

@[simp] theorem names_bound (value : Stored) (rest : List Fragment) :
    names (bound value :: rest) = names rest := rfl

@[simp] theorem names_append (first second : List Fragment) :
    names (first ++ second) = names first ++ names second := List.filterMap_append

@[simp] theorem names_wordIf (condition : Bool) (text : String) :
    names (wordIf condition text) = [] := by
  cases condition <;> rfl

theorem names_separated (separator : String) (parts : List (List Fragment)) :
    names (separated separator parts) = parts.flatMap names :=
  filterMap_separated_of_silent rfl parts

end Fragment

/-- A column definition writes the name of the column. -/
theorem Column.names_written (dialect : Dialect) (column : Column) :
    names (column.written dialect) = [column.sqlName] := by
  have keys : names (column.keyFragments dialect) = [] := by simp [keyFragments]
  have default : names (writtenDefault column.storedDefault?) = [] := by
    cases column.storedDefault? <;> rfl
  simp [written, keys, default]

/-- A definition of a table writes the names of the table and of its columns. -/
theorem CreateTable.names_written (dialect : Dialect) (create : CreateTable) :
    names (create.written dialect) =
      create.table.name :: create.table.columns.map (·.sqlName) := by
  have columns : names (separated ", " (create.table.columns.map (·.written dialect))) =
      create.table.columns.map (·.sqlName) := by
    rw [names_separated, List.flatMap_map, List.map_eq_flatMap]
    exact List.flatMap_congr fun column _ => column.names_written dialect
  simp [written, columns]

namespace Insert

theorem names_writtenRow (cells : List Cell) : names (writtenRow cells) = [] := by
  have values :
      names (separated "," (cells.map fun cell => [Fragment.bound cell.stored])) = [] := by
    rw [names_separated, List.flatMap_map]
    exact List.flatMap_eq_nil_iff.mpr fun _ _ => rfl
  simp [writtenRow, values]

/-- The columns of an insert are the identifiers among its columns and values. -/
theorem names_writtenValues (insert : Insert) :
    names insert.writtenValues = insert.table.insertShape.map (·.sqlName) := by
  rw [writtenValues]
  split
  case isTrue empty =>
    rw [List.isEmpty_iff.mp empty]
    rfl
  case isFalse =>
    have columns : names (separated ","
        (insert.table.insertShape.map fun column => [identifier column.sqlName])) =
          insert.table.insertShape.map (·.sqlName) := by
      rw [names_separated, List.flatMap_map, List.map_eq_flatMap]
      rfl
    have rows : names (separated "," (insert.records.zipIdx.map fun row =>
        writtenRow (rowCells insert.table.insertShape row.2 row.1))) = [] := by
      rw [names_separated, List.flatMap_map]
      exact List.flatMap_eq_nil_iff.mpr fun _ _ => names_writtenRow _
    simp [columns, rows]

/-- An insertion writes the names of the table, of the columns and of what it returns. -/
theorem names_written (dialect : Dialect) (insert : Insert) :
    names (insert.written dialect) = insert.table.name ::
      (insert.table.insertShape.map (·.sqlName) ++
        names (returningFragments dialect insert.returnShape)) := by
  simp [written, names_writtenValues]

end Insert

/-! ## Looking up columns -/

theorem findColumn_eq_ok_iff {specs : List ColumnSpec} (distinct : (specs.map (·.name)).Nodup)
    {owner asked : String} {column : Column} :
    findColumn (specs.map fun spec => ⟨spec, owner⟩) owner asked = .ok column ↔
      ∃ spec ∈ specs, spec.name = asked ∧ column = ⟨spec, owner⟩ := by
  have found {spec : ColumnSpec} : specs.find? (·.name = asked) = some spec ↔
      spec ∈ specs ∧ spec.name = asked := find?_eq_some_iff_of_nodup distinct
  have mapped : (specs.map fun spec => (⟨spec, owner⟩ : Column)).find? (·.name = asked) =
      (specs.find? (·.name = asked)).map fun spec => ⟨spec, owner⟩ := List.find?_map ..
  rw [findColumn, mapped]
  cases answer : specs.find? (·.name = asked) with
  | none =>
      have absent := List.find?_eq_none.mp answer
      simp only [Option.map_none, reduceCtorEq, false_iff, not_exists, not_and]
      intro spec member same
      exact absurd same (by simpa using absent spec member)
  | some first =>
      obtain ⟨member, same⟩ := found.mp answer
      simp only [Option.map_some, Except.ok.injEq]
      constructor
      · rintro rfl
        exact ⟨first, member, same, rfl⟩
      · rintro ⟨spec, inside, name, rfl⟩
        rw [Option.some.inj (answer.symm.trans (found.mpr ⟨inside, name⟩))]

namespace Table

/-- The aliased tables that are made of a table, by one alias or by several one after another. -/
inductive IsSeenAs (table : Table) : AliasedTable → Prop where
  | once (aliasName : String) : IsSeenAs table (table.as aliasName)
  | again {view : AliasedTable} (seen : IsSeenAs table view) (aliasName : String) :
      IsSeenAs table (view.as aliasName)

theorem IsSeenAs.columns {table : Table} {view : AliasedTable} (seen : table.IsSeenAs view) :
    view.columns = table.columns.map (·.withOwner view.aliasName) := by
  induction seen with
  | once aliasName => rfl
  | again seen aliasName ih =>
      simp only [AliasedTable.as, ih, List.map_map]
      rfl

variable {name : String} {specs : List ColumnSpec} {table : Table}

/-- The columns of an accepted table differ in SQL also when case is ignored. -/
theorem nodup_caseless (defined : define name specs = .ok table) :
    (table.columns.map fun column => Engine.caseless column.sqlName).Nodup := by
  obtain ⟨-, distinct, -, rfl⟩ := define_eq_ok_iff.mp defined
  rw [List.map_map, List.Nodup, List.pairwise_map]
  refine distinct.imp ?_
  intro first second different same
  exact different ((toLower_snakeCase _).symm.trans (same.trans (toLower_snakeCase _)))

/-- **Defining a table accepts exactly the valid declarations.** Otherwise it names the first
offending one. An accepted table has the declarations for its columns in order, finds the
declared column of a name under its own name and under every alias, and statements write its
columns under names that differ also when case is ignored. -/
theorem define_decides (name : String) (specs : List ColumnSpec) :
    ((∃ table, define name specs = .ok table) ↔ specs ≠ [] ∧ Coherent specs) ∧
      (∀ error, define name specs = .error error ↔ error.table = name ∧
        (specs = [] ∧ error.fault = .noColumns ∨
          ∃ before spec after, specs = before ++ spec :: after ∧ Coherent before ∧
            Offends before spec error.fault)) ∧
      ∀ table, define name specs = .ok table →
        table = ⟨name, specs.map fun spec => ⟨spec, name⟩⟩ ∧
        (∀ asked column, table.column asked = .ok column ↔
          ∃ spec ∈ specs, spec.name = asked ∧ column = ⟨spec, name⟩) ∧
        (∀ view, table.IsSeenAs view → ∀ asked column, view.column asked = .ok column ↔
          ∃ spec ∈ specs, spec.name = asked ∧ column = ⟨spec, view.aliasName⟩) ∧
        (∀ dialect create fragments, create.table = table →
          (Statement.createTable create).fragments dialect = .ok fragments →
          names fragments = name :: table.columns.map (·.sqlName) ∧
            (table.columns.map fun column => Engine.caseless column.sqlName).Nodup) ∧
        ∀ dialect insert fragments, insert.table = table →
          (Statement.insert insert).fragments dialect = .ok fragments →
          names fragments = name :: (table.insertShape.map (·.sqlName) ++
              names (Insert.returningFragments dialect insert.returnShape)) ∧
            (table.insertShape.map fun column => Engine.caseless column.sqlName).Nodup := by
  refine ⟨?accepts, fun error => define_eq_error_iff, fun table defined => ?_⟩
  case accepts =>
    constructor
    · rintro ⟨table, defined⟩
      obtain ⟨nonempty, distinct, sound, -⟩ := define_eq_ok_iff.mp defined
      exact ⟨nonempty, distinct, sound⟩
    · rintro ⟨nonempty, coherent⟩
      exact ⟨_, define_eq_ok_iff.mpr ⟨nonempty, coherent.distinct, coherent.sound, rfl⟩⟩
  have distinct : (specs.map (·.name)).Nodup := by
    have names := nodup_names_of_define defined
    obtain ⟨-, -, -, rfl⟩ := define_eq_ok_iff.mp defined
    rwa [List.map_map] at names
  have caseless := nodup_caseless defined
  obtain ⟨-, -, -, rfl⟩ := define_eq_ok_iff.mp defined
  refine ⟨rfl, fun asked column => findColumn_eq_ok_iff distinct, ?_, ?_, ?_⟩
  · intro view seen asked column
    have owned : view.columns = specs.map fun spec => ⟨spec, view.aliasName⟩ := by
      rw [seen.columns, List.map_map]
      rfl
    rw [AliasedTable.column, owned]
    exact findColumn_eq_ok_iff distinct
  · intro dialect create fragments same rendered
    rw [Statement.fragments_eq_answer, answer_eq_ok_iff] at rendered
    refine ⟨?_, caseless⟩
    rw [← rendered.2, ← same]
    exact (create.names_written dialect).trans (by rw [same])
  · intro dialect insert fragments same rendered
    rw [Statement.fragments_eq_answer, answer_eq_ok_iff] at rendered
    refine ⟨?_, caseless.sublist (List.filter_sublist.map _)⟩
    rw [← rendered.2]
    exact (insert.names_written dialect).trans (by rw [same])

/-- The columns of a table of backups. -/
def backupSpecs : List ColumnSpec :=
  [{ name := "id", type := .integer, primaryKey := true, autoincrement := true },
    { name := "parentId", type := .integer, nullable := true }]

/-- A column of the backups under a second alias, and the names that statements write. -/
theorem define_decides_backups : ∃ table column created inserted,
    define "backups" backupSpecs = .ok table ∧
      ((table.as "b").as "b1").column "parentId" = .ok column ∧ column.owner = "b1" ∧
      (Statement.createTable { table }).fragments .sqlite = .ok created ∧
      names created = ["backups", "id", "parent_id"] ∧
      (Statement.insert ⟨table, [.empty], []⟩).fragments .sqlite = .ok inserted ∧
      names inserted = ["backups", "parent_id"] := by
  have defined : define "backups" backupSpecs =
      .ok ⟨"backups", backupSpecs.map fun spec => ⟨spec, "backups"⟩⟩ := rfl
  obtain ⟨-, -, seen, created, inserted⟩ := (define_decides "backups" backupSpecs).2.2 _ defined
  refine ⟨_, ⟨{ name := "parentId", type := .integer, nullable := true }, "b1"⟩, _, _,
    defined, ?found, rfl, rfl, ?_, rfl, ?_⟩
  case found =>
    exact (seen _ (.again (.once "b") "b1") _ _).mpr
      ⟨_, List.mem_cons_of_mem _ List.mem_cons_self, rfl, rfl⟩
  · exact (created .sqlite { table := _ } _ rfl rfl).1
  · exact (inserted .sqlite ⟨_, [.empty], []⟩ _ rfl rfl).1

/-- A second column of the same name in SQL is refused. -/
example : define "backups" (backupSpecs ++ [{ name := "parent_id", type := .text }]) =
    .error ⟨"backups", .collision "parent_id" "parentId" "parent_id"⟩ := by rfl

end Table

end TypedSql
