import TypedSql.Proofs.Payload
import TypedSql.Proofs.Producers
import TypedSql.Proofs.Validity

/-!
# Where an insert binds NULL

Resolving a record changes the cells of the written columns only, one after another, and since
the columns of a table have different names no cell is touched twice. So the resolved cell of a
column depends on the cell that was given and on how often the producers have been asked before
(`Insert.get?_resolveRecord`): a value that is given stays, and otherwise the default comes into
its place.

A default may itself be NULL, fixed or from a producer. The validator asks for a value only in a
column without default, and a definition is accepted with any default, so such a NULL is bound
to a column that is not nullable (`Insert.binds_null_default`). It is the only way: in a
validated insert a column that is not nullable is bound to NULL exactly where its default has
given it (`Insert.null_iff_takesNull`).
-/

set_option autoImplicit false

namespace TypedSql

open Outcome

/-- The value of a default after so many calls of the producers. -/
def Default.value (supply : Supply) (calls : Calls) : Default → Value
  | fixed value => value
  | producer id => supply id (calls id)

/-- A column stores NULL for NULL only. -/
theorem Codec.stored_eq_null_iff {type : ColumnType} {value : Value}
    (fits : ∃ stored, encode type value = .ok stored) :
    stored type value = .null ↔ value = .null := by
  obtain ⟨result, encoded⟩ := fits
  rw [stored, encoded]
  show result = .null ↔ value = .null
  constructor
  · rintro rfl
    rw [encode.eq_def] at encoded
    split at encoded
    case h_1 => rfl
    case h_5 =>
      obtain ⟨_, _, impossible⟩ := map_eq_ok.mp encoded
      cases impossible
    all_goals cases encoded
  · rintro rfl
    cases type <;> cases encoded <;> rfl

namespace Insert

variable {supply : Supply} {column : Column}

/-! ## Resolved cells -/

/-- What stands in the cell of a column that has been filled. -/
theorem get?_resolveCell (state : Record × Calls) :
    (resolveCell supply state column).1.get? column.name =
      if isPresent state.1 column then state.1.get? column.name
      else
        match column.default with
        | some default => some (default.value supply state.2)
        | none => if column.nullable then some .null else state.1.get? column.name := by
  rw [resolveCell_eq_fillCell, get?_fillCell, filledCell?]
  rcases column.default with _ | _ | _ <;> rfl

/-- A record does not give a value to a column when the cell is missing or NULL. -/
theorem isPresent_eq_false_iff {record : Record} :
    isPresent record column = false ↔ (record.get? column.name).getD .null = .null := by
  rw [isPresent]
  cases record.get? column.name with
  | none => simp
  | some value => cases value <;> simp [Value.isNull]

/-- A filled cell is NULL when it was not given and the column has no default, or one that is
NULL. -/
theorem resolveCell_eq_null_iff {state : Record × Calls} :
    ((resolveCell supply state column).1.get? column.name).getD .null = .null ↔
      isPresent state.1 column = false ∧
        ∀ default ∈ column.default, default.value supply state.2 = .null := by
  rw [get?_resolveCell]
  cases present : isPresent state.1 column with
  | true => rw [if_pos rfl, ← isPresent_eq_false_iff, present]; simp
  | false =>
      rw [if_neg Bool.false_ne_true]
      cases column.default with
      | some default => simp
      | none =>
          have absent := isPresent_eq_false_iff.mp present
          dsimp only
          split <;> simp [absent]

/-- **A resolved cell is filled once**, from the given cell and after the calls of the columns
before. -/
theorem get?_resolveRecord {shape : List Column} {index : Nat}
    (distinct : (shape.map (·.name)).Nodup) (found : shape[index]? = some column)
    (record : Record) (calls : Calls) :
    (resolveRecord supply shape record calls).1.get? column.name =
      (resolveCell supply (record, (resolveRecord supply (shape.take index) record calls).2)
        column).1.get? column.name := by
  obtain ⟨inShape, isColumn⟩ := List.getElem?_eq_some_iff.mp found
  have split : shape = shape.take index ++ column :: shape.drop (index + 1) := by
    rw [← isColumn, ← List.drop_eq_getElem_cons inShape, List.take_append_drop]
  have distinctFront : ((shape.take index).map (·.name)).Nodup :=
    distinct.sublist ((List.take_sublist ..).map _)
  rw [split] at distinct
  rw [resolveCell_eq_fillCell, get?_fillCell, resolveRecord_eq_fillRecord,
    resolveRecord_eq_fillRecord, state_fillRecord distinctFront 0, ← get?_fillRecord distinct 0,
    ← split]

/-- Each record is resolved after the calls of the records before. -/
theorem getElem?_resolveRecords (shape : List Column) (records : List Record) (calls : Calls)
    (row : Nat) :
    (resolveRecords supply shape records calls).1[row]? =
      records[row]?.map fun record =>
        (resolveRecord supply shape record
          (resolveRecords supply shape (records.take row) calls).2).1 := by
  simp only [resolveRecords_eq_fillRecords, resolveRecord_eq_fillRecord, getElem?_fillRecords]

/-! ## Cells that are bound to NULL -/

/-- How often every producer has been asked when the cell of a row and a written column is
filled. -/
def asked (supply : Supply) (shape : List Column) (records : List Record) (calls : Calls)
    (row index : Nat) : Calls :=
  (resolveRecord supply (shape.take index) (records[row]?.getD .empty)
    (resolveRecords supply shape (records.take row) calls).2).2

/-- A cell without a value of its own that takes NULL from the default of its column. -/
def TakesNull (supply : Supply) (calls : Calls) (record : Record) (column : Column) : Prop :=
  isPresent record column = false ∧
    ∃ default, column.default = some default ∧ default.value supply calls = .null

/-- A cell with which nothing is wrong is NULL only in a column that is nullable or has a
default. -/
theorem exists_default_of_null {record : Record} (written : column.autoincrement = false)
    (notNull : column.nullable = false)
    (faultless : Validation.cellCause? record column = none)
    (null : (record.get? column.name).getD .null = .null) :
    ∃ default, column.default = some default := by
  simp only [Validation.cellCause?, null, written, Value.isNull, ColumnSpec.isRequired, notNull,
    Bool.false_eq_true, if_false, if_true, Bool.not_false, Bool.true_and] at faultless
  rw [← Option.isSome_iff_exists]
  cases default : column.default with
  | some => rfl
  | none => simp [default] at faultless

/-- A filled cell with which nothing is wrong is stored as NULL, in a column that is not nullable,
exactly where the default has given it. -/
theorem stored_eq_null_iff {record resolved : Record} {calls : Calls}
    (filled : resolved.get? column.name =
      (resolveCell supply (record, calls) column).1.get? column.name)
    (written : column.autoincrement = false) (notNull : column.nullable = false)
    (faultless : Validation.cellCause? resolved column = none) :
    Codec.stored column.type ((resolved.get? column.name).getD .null) = .null ↔
      TakesNull supply calls record column := by
  rw [Codec.stored_eq_null_iff (Validation.storable_of_cellCause? written faultless)]
  have exactly := @resolveCell_eq_null_iff supply column (record, calls)
  rw [← filled] at exactly
  constructor
  · intro null
    obtain ⟨default, declared⟩ := exists_default_of_null written notNull faultless null
    obtain ⟨absent, each⟩ := exactly.mp null
    exact ⟨absent, default, declared, each default declared⟩
  · rintro ⟨absent, default, declared, value⟩
    refine exactly.mpr ⟨absent, ?_⟩
    intro other isDefault
    obtain rfl : default = other := Option.some.inj (declared.symm.trans isDefault)
    exact value

/-- A rendered insert has a parameter for every record and every written column. -/
theorem length_parameters {insert : Insert} {dialect : Dialect} {compiled : Compiled}
    (rendered : (Statement.insert insert).compile dialect = .ok compiled) :
    compiled.parameters.length = insert.records.length * insert.table.insertShape.length := by
  rw [eq_ofFragments rendered, ← length_cells, ← List.length_map Cell.stored,
    ← parametersOfAll_written dialect]
  rfl

section

variable {table : Table} {records : List Record} {calls : Calls} {steps : List Step}
  {row index : Nat} {record : Record}

/-- The record in a row of an insert has the cells that are filled for this row. -/
theorem exists_resolved (distinct : (table.insertShape.map (·.name)).Nodup)
    (inRecords : records[row]? = some record) (inShape : table.insertShape[index]? = some column) :
    ∃ resolved, (build supply table records calls steps).records[row]? = some resolved ∧
      resolved.get? column.name = (resolveCell supply
        (record, asked supply table.insertShape records calls row index) column).1.get?
          column.name := by
  simp only [build_records, getElem?_resolveRecords, asked, inRecords, Option.map_some,
    Option.getD_some]
  exact ⟨_, rfl, get?_resolveRecord distinct inShape record _⟩

end

/-- **A validated insert binds NULL to a column that is not nullable exactly where the default of
the column has given it.** -/
theorem null_iff_takesNull (supply : Supply) {name : String} {specs : List ColumnSpec}
    {table : Table} (defined : Table.define name specs = .ok table) (dialect : Dialect)
    (records : List Record) (calls : Calls) (steps : List Step)
    (valid : Validation.check (build supply table records calls steps).table
      (build supply table records calls steps).records = .ok ())
    {compiled : Compiled}
    (rendered : (Statement.insert (build supply table records calls steps)).compile dialect =
      .ok compiled) :
    compiled.parameters.length = records.length * table.insertShape.length ∧
      ∀ row record index column, records[row]? = some record →
        table.insertShape[index]? = some column →
          ∃ stored,
            compiled.parameters[row * table.insertShape.length + index]? = some stored ∧
              (column.nullable = false →
                (stored = .null ↔ TakesNull supply
                  (asked supply table.insertShape records calls row index) record column)) := by
  have sameTable := build_table supply table records calls steps
  have distinct : (table.insertShape.map (·.name)).Nodup :=
    (Table.nodup_names_of_define defined).sublist (List.filter_sublist.map _)
  constructor
  · rw [length_parameters rendered, sameTable, build_records, length_resolveRecords]
  · intro row record index column inRecords inShape
    obtain ⟨resolved, inResolved, filled⟩ := exists_resolved distinct inRecords inShape
    have bound := getElem?_parameters rendered inResolved (sameTable.symm ▸ inShape)
    rw [sameTable] at bound
    have member := List.mem_of_getElem? inShape
    have accepts := Validation.check_eq_ok_iff.mp valid _ (List.mem_of_getElem? inResolved)
    rw [sameTable] at accepts
    exact ⟨_, bound, fun notNull => stored_eq_null_iff filled
      (mem_insertShape_iff.mp member).2 notNull
      (accepts.cells column (List.mem_filter.mp member).1)⟩

/-- A state that is not nullable and has a default. -/
def stateSpec (default : Default) : ColumnSpec :=
  { name := "state", type := .text, default := some default }

/-- Every producer gives NULL at its first call, and a text later. -/
def lateSupply : Supply := fun _ count => if count = 0 then .null else .text "queued"

/-- Of two records without a state, the first is bound to NULL, which its default has given it, and
the second is not. -/
theorem null_iff_takesNull_states : ∃ table compiled,
    Table.define "jobs" [stateSpec (.producer ⟨0⟩)] = .ok table ∧
      let insert := build lateSupply table [.empty, .empty] Calls.none []
      let before := asked lateSupply table.insertShape [.empty, .empty] Calls.none
      Validation.check insert.table insert.records = .ok () ∧
        (Statement.insert insert).compile .sqlite = .ok compiled ∧
        compiled.parameters = [.null, .text "queued"] ∧
        ∀ column ∈ table.columns, column.nullable = false ∧
          TakesNull lateSupply (before 0 0) .empty column ∧
          ¬ TakesNull lateSupply (before 1 0) .empty column := by
  have defined : Table.define "jobs" [stateSpec (.producer ⟨0⟩)] =
      .ok ⟨"jobs", [⟨stateSpec (.producer ⟨0⟩), "jobs"⟩]⟩ := rfl
  obtain ⟨-, bound⟩ :=
    null_iff_takesNull lateSupply defined .sqlite [.empty, .empty] Calls.none [] rfl rfl
  refine ⟨_, _, defined, rfl, rfl, rfl, ?_⟩
  intro column member
  obtain rfl := List.mem_singleton.mp member
  obtain ⟨first, isFirst, firstNull⟩ := bound 0 .empty 0 _ rfl rfl
  obtain ⟨second, isSecond, secondNull⟩ := bound 1 .empty 0 _ rfl rfl
  cases isFirst
  cases isSecond
  exact ⟨rfl, (firstNull rfl).mp rfl, fun takes => nomatch (secondNull rfl).mpr takes⟩

/-- **A default of NULL reaches a column that is not nullable.** The definition is accepted, the
column is written as NOT NULL, and a record without a state passes the validator and is bound to
NULL. -/
theorem binds_null_default : ∃ table,
    Table.define "jobs" [stateSpec (.fixed .null)] = .ok table ∧
      (Statement.createTable { table }).compile .sqlite =
        .ok ⟨"CREATE TABLE \"jobs\" (\"state\" TEXT NOT NULL DEFAULT NULL);", []⟩ ∧
      let insert := build lateSupply table [.empty] Calls.none []
      Validation.check insert.table insert.records = .ok () ∧
        ∃ compiled, (Statement.insert insert).compile .sqlite = .ok compiled ∧
          compiled.parameters = [.null] ∧ table.insertShape.map (·.nullable) = [false] :=
  ⟨_, rfl, rfl, rfl, _, rfl, rfl, rfl⟩

end Insert

end TypedSql
