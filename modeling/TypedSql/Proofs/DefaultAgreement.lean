import TypedSql.Proofs.DefaultLiterals
import TypedSql.Proofs.Defaults

/-!
# Defaults of definitions and of inserts

A fixed default is used twice. The definition of a table writes it behind ` DEFAULT `, and an
insert puts it into every cell of its column that is missing or NULL, before the cells are
encoded. Both pass it through the codec of the column. So what an insert binds for such a cell is
the stored value that the definition writes, and a default that the codec refuses fails the
definition and the insert with one cause, each of them at its first misfit
(`Table.defaults_agree`).
-/

set_option autoImplicit false

namespace TypedSql

open Outcome

/-! ## Definitions -/

namespace Table

/-- The definitions of a table write a stored value behind ` DEFAULT `, at the end of the
definition of a column. -/
def WritesDefault (table : Table) (column : Column) (stored : Stored) : Prop :=
  ∀ create : CreateTable, create.table = table → ∀ dialect compiled,
    (Statement.createTable create).compile dialect = .ok compiled →
      ∃ front back, compiled.text.toList =
          front ++ ((column.heading dialect).flatMap (·.chars dialect) ++
            (" DEFAULT ".toList ++ (stored.inline.toList ++ back))) ∧ TableText.Closes back

/-- The definitions of a table fail with the default of a column, unless a default before it does
not fit. -/
def RefusesDefault (table : Table) (column : Column) (cause : CodecError) : Prop :=
  ∀ create : CreateTable, create.table = table → ∀ dialect position,
    table.columns[position]? = some column →
      (∀ earlier ∈ table.columns.take position, earlier.DefaultFits) →
        (Statement.createTable create).compile dialect =
          .error (.codec ⟨.default table.name column.name, cause⟩)

variable {table : Table} {column : Column} {value : Value}

theorem writesDefault {stored : Stored} (member : column ∈ table.columns)
    (fixed : column.default = some (.fixed value))
    (encoded : Codec.encode column.type value = .ok stored) :
    table.WritesDefault column stored := by
  rintro create rfl dialect compiled rendered
  obtain ⟨other, front, back, sameEncoded, text, closes⟩ :=
    CreateTable.exists_text_default rendered member fixed
  obtain rfl : stored = other := Except.ok.inj (encoded.symm.trans sameEncoded)
  exact ⟨front, back, text, closes⟩

theorem refusesDefault {cause : CodecError} (fixed : column.default = some (.fixed value))
    (refused : Codec.encode column.type value = .error cause) :
    table.RefusesDefault column cause := by
  rintro create rfl dialect position found earlierFit
  rw [Statement.compile_eq_answer, answer_eq_error_iff]
  refine head?_flatMap_of_first found ?_ ?_
  · intro earlier before
    exact Column.defaultFaults_eq_nil_iff.mpr (earlierFit earlier before)
  · rw [Column.defaultFaults, fixed]
    simp [Codec.faults, refused]

/-- The definitions of a table render exactly when every fixed default fits its column. -/
theorem renders_iff_defaultFits {create : CreateTable} (dialect : Dialect) :
    (∃ compiled, (Statement.createTable create).compile dialect = .ok compiled) ↔
      ∀ column ∈ create.table.columns, column.DefaultFits := by
  have wellFormed := @CreateTable.faults_eq_nil_iff create
  rw [CreateTable.WellFormed] at wellFormed
  rw [← wellFormed, Statement.compile_eq_answer]
  simp [answer_eq_ok_iff, Statement.faults]

end Table

/-! ## Inserts -/

namespace Insert

/-- Wherever an insert renders, it binds a stored value at a place. -/
def BindsAt (insert : Insert) (place : Nat) (stored : Stored) : Prop :=
  ∀ dialect compiled, (Statement.insert insert).compile dialect = .ok compiled →
    compiled.parameters[place]? = some stored

/-- An insert never renders because of the cell at a place, and fails with it unless a cell before
it does not fit. -/
structure RefusesAt (insert : Insert) (place : Nat) (cell : Cell) (cause : CodecError) : Prop where
  first : ∀ dialect, (∀ earlier ∈ insert.cells.take place, earlier.Fits) →
    (Statement.insert insert).compile dialect =
      .error (.codec ⟨.cell cell.row cell.column.name, cause⟩)
  always : ∀ dialect, ∃ failure, (Statement.insert insert).compile dialect = .error (.codec failure)

variable {insert : Insert} {cell : Cell}

theorem Cell.faults_eq_nil_iff : cell.faults = [] ↔ cell.Fits := Codec.faults_eq_nil_iff_exists

/-- A fault of a cell is that of its codec. -/
theorem Cell.exists_codec_of_mem_faults {error : RenderError} (member : error ∈ cell.faults) :
    ∃ failure, error = .codec failure :=
  Codec.exists_codec_of_mem_faults member

/-- An insert that has a cell fails for its cells only. -/
theorem faults_of_mem_cells (member : cell ∈ insert.cells) :
    insert.faults = insert.cells.flatMap Cell.faults := by
  have records : insert.records.isEmpty = false := by
    cases same : insert.records with
    | nil => simp [cells, same] at member
    | cons => rfl
  have shape : insert.table.insertShape.isEmpty = false := by
    cases same : insert.table.insertShape with
    | nil => simp [cells_eq_nil same] at member
    | cons => rfl
  rw [faults, records, valueFaults, shape]
  rfl

theorem renders_iff_fits (member : cell ∈ insert.cells) (dialect : Dialect) :
    (∃ compiled, (Statement.insert insert).compile dialect = .ok compiled) ↔
      ∀ cell ∈ insert.cells, cell.Fits := by
  rw [Statement.compile_eq_answer, Statement.faults, faults_of_mem_cells member]
  simp [answer_eq_ok_iff, Cell.faults_eq_nil_iff]

theorem refusesAt {place : Nat} {cause : CodecError} (found : insert.cells[place]? = some cell)
    (refused : Codec.encode cell.column.type cell.value = .error cause) :
    insert.RefusesAt place cell cause := by
  have member := List.mem_of_getElem? found
  have here : cell.faults = [.codec ⟨.cell cell.row cell.column.name, cause⟩] := by
    simp [Cell.faults, Codec.faults, refused]
  have failed (dialect : Dialect) (error : RenderError) :
      (Statement.insert insert).compile dialect = .error error ↔
        (insert.cells.flatMap Cell.faults).head? = some error := by
    rw [Statement.compile_eq_answer, answer_eq_error_iff, Statement.faults,
      faults_of_mem_cells member]
  constructor
  case first =>
    intro dialect earlierFit
    rw [failed]
    refine head?_flatMap_of_first found ?_ (by rw [here]; rfl)
    intro earlier before
    exact Cell.faults_eq_nil_iff.mpr (earlierFit earlier before)
  case always =>
    intro dialect
    -- A cell before this one may not fit either, and then that one fails, also with its codec.
    have nonempty : insert.cells.flatMap Cell.faults ≠ [] := by
      intro none
      rw [List.flatMap_eq_nil_iff.mp none cell member] at here
      cases here
    obtain ⟨error, others, faults⟩ := List.exists_cons_of_ne_nil nonempty
    obtain ⟨faulty, -, isFault⟩ := List.mem_flatMap.mp (faults ▸ List.mem_cons_self)
    obtain ⟨failure, rfl⟩ := Cell.exists_codec_of_mem_faults isFault
    exact ⟨failure, (failed dialect _).mpr (by rw [faults]; rfl)⟩

section

variable {supply : Supply} {table : Table} {column : Column} {value : Value}
  {records : List Record} {calls : Calls} {steps : List Step} {row index : Nat} {record : Record}

/-- A cell that a record leaves out or has as NULL is filled with the fixed default of its
column. -/
theorem exists_filled (distinct : (table.insertShape.map (·.name)).Nodup)
    (inRecords : records[row]? = some record) (inShape : table.insertShape[index]? = some column)
    (fixed : column.default = some (.fixed value))
    (absent : ∀ given, record.get? column.name = some given → given = .null) :
    ∃ resolved, (build supply table records calls steps).records[row]? = some resolved ∧
      (resolved.get? column.name).getD .null = value := by
  have notPresent : isPresent record column = false := by
    rw [isPresent_eq_false_iff]
    cases given : record.get? column.name with
    | none => rfl
    | some value => exact absent value given
  obtain ⟨resolved, inResolved, filled⟩ :=
    @exists_resolved supply column table records calls steps row index record distinct inRecords
      inShape
  refine ⟨resolved, inResolved, ?_⟩
  rw [filled, get?_resolveCell, if_neg (by simp [notPresent]), fixed]
  rfl

variable {insert : Insert} {resolved : Record}

/-- A value that fits its column is bound at the place of its cell. -/
theorem bindsAt {stored : Stored} (inRecords : insert.records[row]? = some resolved)
    (inShape : insert.table.insertShape[index]? = some column)
    (holds : (resolved.get? column.name).getD .null = value)
    (encoded : Codec.encode column.type value = .ok stored) :
    insert.BindsAt (row * insert.table.insertShape.length + index) stored := by
  intro dialect compiled rendered
  have bound := getElem?_parameters rendered inRecords inShape
  rw [holds, Codec.stored, encoded] at bound
  exact bound

end

end Insert

/-! ## Agreement -/

/-- **The defaults of definitions and of inserts agree.** A definition of an accepted table renders
exactly when every fixed default fits its column. In an insert that is built from records of the
table, a cell of a written column that is missing or NULL holds the fixed default of the column.
Such an insert renders exactly when all its cells fit. If the default fits, an insert binds for
the cell what definitions write behind ` DEFAULT `. If the codec refuses it, definitions and
inserts fail, each of them with this cause if nothing before it fails. -/
theorem Table.defaults_agree {name : String} {specs : List ColumnSpec} {table : Table}
    (defined : Table.define name specs = .ok table) :
    (∀ create : CreateTable, create.table = table → ∀ dialect,
      (∃ compiled, (Statement.createTable create).compile dialect = .ok compiled) ↔
        ∀ column ∈ table.columns, column.DefaultFits) ∧
    ∀ column ∈ table.columns, column.autoincrement = false →
      ∀ value, column.default = some (.fixed value) →
        ∃ index, table.insertShape[index]? = some column ∧
          ∀ supply records calls steps row record, records[row]? = some record →
            (∀ given, record.get? column.name = some given → given = .null) →
            let insert := Insert.build supply table records calls steps
            let place := row * table.insertShape.length + index
            insert.cells[place]? = some ⟨row, column, value⟩ ∧
              (∀ dialect, (∃ compiled, (Statement.insert insert).compile dialect = .ok compiled) ↔
                ∀ cell ∈ insert.cells, cell.Fits) ∧
              (∀ stored, Codec.encode column.type value = .ok stored →
                table.WritesDefault column stored ∧ insert.BindsAt place stored) ∧
              ∀ cause, Codec.encode column.type value = .error cause →
                table.RefusesDefault column cause ∧
                  insert.RefusesAt place ⟨row, column, value⟩ cause := by
  constructor
  · rintro create rfl dialect
    exact renders_iff_defaultFits dialect
  · intro column member written value fixed
    obtain ⟨index, inShape⟩ :=
      List.getElem?_of_mem (Insert.mem_insertShape_iff.mpr ⟨member, written⟩)
    refine ⟨index, inShape, ?_⟩
    intro supply records calls steps row record inRecords absent insert place
    have distinct : (table.insertShape.map (·.name)).Nodup :=
      (nodup_names_of_define defined).sublist (List.filter_sublist.map _)
    have sameTable : insert.table = table := Insert.build_table supply table records calls steps
    obtain ⟨resolved, inResolved, holds⟩ :=
      @Insert.exists_filled supply table column value records calls steps row index record distinct
        inRecords inShape fixed absent
    have isCell := Insert.getElem?_cells inResolved (sameTable.symm ▸ inShape)
    rw [sameTable, holds] at isCell
    refine ⟨isCell, Insert.renders_iff_fits (List.mem_of_getElem? isCell), ?_, ?_⟩
    · intro stored encoded
      have bound := Insert.bindsAt inResolved (sameTable.symm ▸ inShape) holds encoded
      rw [sameTable] at bound
      exact ⟨writesDefault member fixed encoded, bound⟩
    · intro cause refused
      exact ⟨refusesDefault fixed refused, Insert.refusesAt isCell refused⟩

/-- A field of jobs that has a fixed default. -/
def Column.field (type : ColumnType) (default : Value) : Column :=
  { name := "field", type := type, default := some (.fixed default), owner := "jobs" }

/-- Jobs with a number from the database and with a field. -/
def Table.withField (type : ColumnType) (default : Value) : Table where
  name := "jobs"
  columns := [
    { name := "id", type := .integer, primaryKey := true, autoincrement := true, owner := "jobs" },
    .field type default]

/-- Two jobs, of which the first lacks the field and the second has it as NULL. -/
def jobsWithoutField : List Record := [.empty, .ofList [("field", .null)]]

/-- The insert of these jobs. -/
def Insert.withField (type : ColumnType) (default : Value) : Insert :=
  build (fun _ _ => .null) (.withField type default) jobsWithoutField Calls.none []

theorem Table.mem_withField (type : ColumnType) (default : Value) :
    .field type default ∈ (withField type default).columns :=
  List.mem_cons_of_mem _ List.mem_cons_self

/-- The field is the only column that an insert of jobs writes. -/
theorem Table.eq_zero_of_withField {type : ColumnType} {default : Value} {index : Nat}
    (inShape : (withField type default).insertShape[index]? = some (.field type default)) :
    index = 0 :=
  Nat.lt_one_iff.mp (List.getElem?_eq_some_iff.mp inShape).1

/-- A truth value is written as the number 1, which is bound for both jobs. A text that is no
number fails the definition and the insert with one cause. -/
theorem Table.defaults_agree_jobs :
    (∃ created inserted,
      (Statement.createTable { table := withField .boolean (.bool true) }).compile .sqlite =
        .ok created ∧
      (∃ front back, created.text.toList = front ++ (" DEFAULT ".toList ++ ("1".toList ++ back))) ∧
      (Statement.insert (.withField .boolean (.bool true))).compile .sqlite = .ok inserted ∧
      inserted.parameters[0]? = some (.int 1) ∧ inserted.parameters[1]? = some (.int 1)) ∧
    ∃ cause, (Statement.createTable { table := withField .integer (.text "big") }).compile .sqlite =
        .error (.codec ⟨.default "jobs" "field", cause⟩) ∧
      (Statement.insert (.withField .integer (.text "big"))).compile .sqlite =
        .error (.codec ⟨.cell 0 "field", cause⟩) := by
  have absent : ∀ given, (Dictionary.empty : Record).get? "field" = some given → given = .null := by
    rintro given ⟨⟩
  have null : ∀ given, (Dictionary.ofList [("field", Value.null)]).get? "field" = some given →
      given = .null := by
    rintro given ⟨⟩
    rfl
  constructor
  · have defined : Table.define "jobs" ((withField .boolean (.bool true)).columns.map
        (·.toColumnSpec)) = .ok (withField .boolean (.bool true)) := rfl
    obtain ⟨index, inShape, agree⟩ := (defaults_agree defined).2 _ (mem_withField ..) rfl _ rfl
    obtain rfl := eq_zero_of_withField inShape
    obtain ⟨-, -, missing, -⟩ :=
      agree (fun _ _ => .null) jobsWithoutField Calls.none [] 0 _ rfl absent
    obtain ⟨-, -, given, -⟩ := agree (fun _ _ => .null) jobsWithoutField Calls.none [] 1 _ rfl null
    have created : (Statement.createTable { table := withField .boolean (.bool true) }).compile
      .sqlite = .ok _ := rfl
    have inserted : (Statement.insert (.withField .boolean (.bool true))).compile .sqlite = .ok _ :=
      rfl
    obtain ⟨front, back, written, -⟩ := (missing (.int 1) rfl).1 _ rfl _ _ created
    rw [← List.append_assoc] at written
    exact ⟨_, _, created, ⟨_, back, written⟩, inserted, (missing (.int 1) rfl).2 _ _ inserted,
      (given (.int 1) rfl).2 _ _ inserted⟩
  · have defined : Table.define "jobs" ((withField .integer (.text "big")).columns.map
        (·.toColumnSpec)) = .ok (withField .integer (.text "big")) := rfl
    obtain ⟨index, inShape, agree⟩ := (defaults_agree defined).2 _ (mem_withField ..) rfl _ rfl
    obtain rfl := eq_zero_of_withField inShape
    obtain ⟨-, -, -, misfit⟩ :=
      agree (fun _ _ => .null) jobsWithoutField Calls.none [] 0 _ rfl absent
    obtain ⟨definition, insert⟩ := misfit _ rfl
    refine ⟨_, definition _ rfl _ 1 rfl ?_, insert.first _ ?_⟩
    · intro earlier before value fixed
      obtain rfl := List.mem_singleton.mp before
      cases fixed
    · intro earlier before
      cases before

end TypedSql
