import TypedSql.Proofs.Aliases
import TypedSql.Proofs.Written
import TypedSql.Render.Statement

/-!
# What a statement refuses

Every kind of statement has a list of faults, in the order in which a reader of the statement
meets them, and a list of fragments that does not depend on the faults. Rendering looks for
faults while it writes, and the result is either the first fault or, without any, what is
written (`Statement.fragments_eq_answer`).

The faults of an expression are those of its nodes, where a node stands before its operands and
the left operand before the right one. A select looks for unknown aliases first
(`Select.check_eq_answer`), then for a projection, and last for the operators of its conditions. An
insert that writes something goes through its cells row by row. The faults of a definition are
those of its columns.

The main statement, `Statement.fails_first`, is that a statement renders exactly when it is well
formed, and that any other one fails with the first of its faults. Literals, limits and offsets go
through a codec as cells and defaults do, but theirs never refuses them.
-/

set_option autoImplicit false

namespace TypedSql

open Fragment Outcome

/-! ## Expressions -/

namespace Expr

/-- Whether the operator of a node takes what stands on its right. `IN` and `NOT IN` take a list,
or an expression that is not a literal. `IS` and `IS NOT` take a truth keyword, and every other
operator an expression. -/
def isWellPaired : Expr → Bool
  | binary _ operator (literal _) => operator ∉ [Operator.isIn, .notIn, .is, .isNot]
  | binary _ operator _ => operator ∉ [Operator.is, .isNot]
  | ofList _ operator _ => operator ∈ [Operator.isIn, .notIn]
  | ofTruth _ operator _ => operator ∈ [Operator.is, .isNot]
  | _ => true

/-- The operator of a node and what it does not take on its right. -/
def mispairing? : Expr → Option OperandError
  | binary _ operator _ =>
      some (.mispaired operator
        (if operator ∈ [Operator.isIn, .notIn] then .singleLiteral else .expression))
  | ofList _ operator _ => some (.mispaired operator .list)
  | ofTruth _ operator _ => some (.mispaired operator .truthKeyword)
  | _ => none

theorem isWellPaired_binary (left : Expr) (operator : Operator) (right : Expr) :
    (binary left operator right).isWellPaired =
      if operator.isMembership then !right.isLiteral else !operator.isTruthTest := by
  cases operator <;> cases right <;> rfl

theorem isWellPaired_ofList (left : Expr) (operator : Operator) (values : List Value) :
    (ofList left operator values).isWellPaired = operator.isMembership := by
  cases operator <;> rfl

theorem isWellPaired_ofTruth (left : Expr) (operator : Operator) (keyword : TruthKeyword) :
    (ofTruth left operator keyword).isWellPaired = operator.isTruthTest := by
  cases operator <;> rfl

theorem mispairing?_binary (left : Expr) (operator : Operator) (right : Expr) :
    (binary left operator right).mispairing? = some (.mispaired operator
      (if operator.isMembership then .singleLiteral else .expression)) := by
  cases operator <;> rfl

/-- What the operators among nodes do not take. -/
def mispairings (nodes : List Expr) : List OperandError :=
  (nodes.filter (!·.isWellPaired)).filterMap mispairing?

theorem mispairings_cons (node : Expr) (rest : List Expr) :
    mispairings (node :: rest) =
      (if node.isWellPaired then [] else node.mispairing?.toList) ++ mispairings rest := by
  rw [mispairings, List.filter_cons]
  cases node.isWellPaired with
  | true => rfl
  | false => cases found : node.mispairing? <;> simp [mispairings, found]

theorem mispairings_append (first second : List Expr) :
    mispairings (first ++ second) = mispairings first ++ mispairings second := by
  rw [mispairings, List.filter_append, List.filterMap_append]
  rfl

mutual

/-- The first wrong operand is that of the first node whose operator does not take it. -/
theorem fault?_eq_head? : ∀ e : Expr, e.fault? = (mispairings e.nodes).head?
  | column _ => rfl
  | literal _ => rfl
  | binary left operator right => by
      rw [fault?, nodes, mispairings_cons, mispairings_append, fault?_eq_head? left,
        fault?_eq_head? right, isWellPaired_binary, mispairing?_binary]
      cases truthTest : operator.isTruthTest with
      | true => simp [Operator.isMembership_of_isTruthTest truthTest]
      | false => cases operator.isMembership <;> cases right.isLiteral <;> simp
  | ofList left operator _ => by
      rw [fault?, nodes, mispairings_cons, fault?_eq_head? left, isWellPaired_ofList, mispairing?]
      cases operator.isMembership <;> simp
  | ofTruth left operator _ => by
      rw [fault?, nodes, mispairings_cons, fault?_eq_head? left, isWellPaired_ofTruth,
        mispairing?]
      cases operator.isTruthTest <;> simp
  | junction kind members => by
      rw [fault?, nodes, mispairings_cons, faultOfAll?_eq_head? members]
      rfl
  | not inner => by
      rw [fault?, nodes, mispairings_cons, fault?_eq_head? inner]
      rfl

theorem faultOfAll?_eq_head? : ∀ members : List Expr,
    faultOfAll? members = (mispairings (nodesOfAll members)).head?
  | [] => rfl
  | first :: rest => by
      rw [faultOfAll?, nodesOfAll, mispairings_append, List.head?_append, fault?_eq_head? first,
        faultOfAll?_eq_head? rest]

end

/-- The faults of a condition in a statement. -/
def faults (condition : Expr) : List RenderError :=
  (mispairings condition.nodes).map .operand

/-- A condition fails with the first of its wrong operands, and without one answers with what is
written. -/
theorem fragments_eq_answer (condition : Expr) :
    condition.fragments = answer condition.faults condition.written := by
  rw [fragments_eq, fault?_eq_head?, faults]
  cases mispairings condition.nodes <;> rfl

/-- Every operator of an expression takes what stands on its right. -/
def WellPaired (e : Expr) : Prop := ∀ node ∈ e.nodes, node.isWellPaired = true

theorem mispairings_eq_nil_iff {nodes : List Expr} :
    mispairings nodes = [] ↔ ∀ node ∈ nodes, node.isWellPaired = true := by
  induction nodes with
  | nil => simp [mispairings]
  | cons node rest ih =>
      have named : node.isWellPaired = false → node.mispairing?.toList ≠ [] := by
        cases node <;> simp [isWellPaired, mispairing?]
      rw [mispairings_cons, List.append_eq_nil_iff, ih, List.forall_mem_cons]
      cases paired : node.isWellPaired with
      | true => simp
      | false => simp [named paired]

theorem faults_eq_nil_iff {condition : Expr} : condition.faults = [] ↔ condition.WellPaired := by
  rw [faults, List.map_eq_nil_iff, mispairings_eq_nil_iff, WellPaired]

end Expr

/-- The condition of a statement after its keyword, whatever its operands are. -/
def writtenWhere : Option Expr → List Fragment
  | none => []
  | some condition => word " WHERE " :: condition.written

theorem whereFragments_eq_answer (condition : Option Expr) :
    whereFragments condition =
      answer (condition.toList.flatMap Expr.faults) (writtenWhere condition) := by
  cases condition with
  | none => rfl
  | some condition =>
      rw [whereFragments, condition.fragments_eq_answer, bind_pure_answer, writtenWhere,
        Option.toList_some, List.flatMap_singleton]

/-! ## Values of columns -/

namespace Codec

/-- What a column stores of a value, and NULL for a value that it cannot store. -/
def stored (type : ColumnType) (value : Value) : Stored :=
  (encode type value).toOption.getD .null

/-- The failure at a place of a value that its column cannot store. -/
def faults (place : CodecPlace) (type : ColumnType) (value : Value) : List RenderError :=
  match encode type value with
  | .ok _ => []
  | .error cause => [.codec ⟨place, cause⟩]

end Codec

theorem encodeAt_eq_answer (place : CodecPlace) (type : ColumnType) (value : Value) :
    encodeAt place type value =
      answer (Codec.faults place type value) (Codec.stored type value) := by
  rw [encodeAt, Codec.faults, Codec.stored]
  cases Codec.encode type value <;> rfl

/-! ## Creating tables -/

namespace Column

/-- The stored form of a fixed default. -/
def storedDefault? (column : Column) : Option Stored :=
  match column.default with
  | some (.fixed value) => some (Codec.stored column.type value)
  | _ => none

/-- The failure of a fixed default that its column cannot store. -/
def defaultFaults (table : String) (column : Column) : List RenderError :=
  match column.default with
  | some (.fixed value) => Codec.faults (.default table column.name) column.type value
  | _ => []

/-- The default in a column definition. -/
def writtenDefault : Option Stored → List Fragment
  | none => []
  | some stored => [word " DEFAULT ", inline stored]

/-- The definition of a column, whether it can store its default or not. -/
def written (dialect : Dialect) (column : Column) : List Fragment :=
  [identifier column.sqlName, word (" " ++ dialect.typeName column.type column.size)] ++
    column.keyFragments dialect ++ writtenDefault column.storedDefault?

theorem defaultFragments_eq_answer (table : String) (column : Column) :
    column.defaultFragments table =
      answer (column.defaultFaults table) (writtenDefault column.storedDefault?) := by
  rw [defaultFragments, defaultFaults, storedDefault?]
  rcases column.default with _ | value | id
  · rfl
  · exact (congrArg (· >>= _) (encodeAt_eq_answer _ _ value)).trans bind_pure_answer
  · rfl

theorem definition_eq_answer (dialect : Dialect) (table : String) (column : Column) :
    column.definition dialect table =
      answer (column.defaultFaults table) (column.written dialect) := by
  rw [definition, defaultFragments_eq_answer, bind_pure_answer, written]

/-- A column whose fixed default, if it has one, can be stored. -/
def DefaultFits (column : Column) : Prop :=
  ∀ value, column.default = some (.fixed value) →
    ∃ stored, Codec.encode column.type value = .ok stored

end Column

namespace CreateTable

/-- The faults of a definition, column by column. -/
def faults (create : CreateTable) : List RenderError :=
  create.table.columns.flatMap (·.defaultFaults create.table.name)

/-- The fragments of a statement that creates a table, whatever its defaults are. -/
def written (dialect : Dialect) (create : CreateTable) : List Fragment :=
  [word "CREATE "] ++ wordIf create.unlogged "UNLOGGED " ++ [word "TABLE "] ++
    wordIf create.ifNotExists "IF NOT EXISTS " ++ [identifier create.table.name, word " ("] ++
    separated ", " (create.table.columns.map (·.written dialect)) ++ [word ");"]

theorem fragments_eq_answer (dialect : Dialect) (create : CreateTable) :
    create.fragments dialect = answer create.faults (create.written dialect) := by
  have columns := mapM_answer
    (fun column : Column => column.definition_eq_answer dialect create.table.name)
    create.table.columns
  rw [fragments, columns, bind_pure_answer, faults, written]

end CreateTable

/-! ## Inserting records -/

namespace Insert

/-- A value that an insert writes, with its row and its column. -/
structure Cell where
  row : Nat
  column : Column
  value : Value

namespace Cell

/-- What is stored of a cell. -/
def stored (cell : Cell) : Stored := Codec.stored cell.column.type cell.value

/-- The failure of a cell that its column cannot store. -/
def faults (cell : Cell) : List RenderError :=
  Codec.faults (.cell cell.row cell.column.name) cell.column.type cell.value

/-- A cell that its column can store. -/
def Fits (cell : Cell) : Prop :=
  ∃ stored, Codec.encode cell.column.type cell.value = .ok stored

end Cell

/-- The cells of one record, in which a missing value is NULL. -/
def rowCells (shape : List Column) (row : Nat) (record : Record) : List Cell :=
  shape.map fun column => ⟨row, column, (record.get? column.name).getD .null⟩

/-- The cells of an insert, row by row. -/
def cells (insert : Insert) : List Cell :=
  insert.records.zipIdx.flatMap fun (record, row) => rowCells insert.table.insertShape row record

/-- The faults of the values of an insert: there is nothing to write of several records, or else
those of the cells. -/
def valueFaults (insert : Insert) : List RenderError :=
  if insert.table.insertShape.isEmpty && 1 < insert.records.length then
    [.empty (.noInsertableColumns insert.table.name)]
  else insert.cells.flatMap Cell.faults

/-- The faults of an insert: it has no records, or else those of its values. -/
def faults (insert : Insert) : List RenderError :=
  if insert.records.isEmpty then [.empty (.noRecords insert.table.name)] else insert.valueFaults

/-- The bound values of one record in parentheses. -/
def writtenRow (cells : List Cell) : List Fragment :=
  [word "("] ++ separated "," (cells.map fun cell => [Fragment.bound cell.stored]) ++ [word ")"]

/-- The columns and the values of an insert, whatever the values are. -/
def writtenValues (insert : Insert) : List Fragment :=
  if insert.table.insertShape.isEmpty then [word " DEFAULT VALUES"]
  else
    [word " ("] ++
      separated "," (insert.table.insertShape.map fun column => [identifier column.sqlName]) ++
      [word ") VALUES "] ++
      separated "," (insert.records.zipIdx.map fun (record, row) =>
        writtenRow (rowCells insert.table.insertShape row record))

/-- The fragments of a statement that inserts records, whatever the values are. -/
def written (dialect : Dialect) (insert : Insert) : List Fragment :=
  [word "INSERT INTO ", identifier insert.table.name] ++ insert.writtenValues ++
    returningFragments dialect insert.returnShape ++ [word ";"]

theorem rowFragments_eq_answer (shape : List Column) (row : Nat) (record : Record) :
    rowFragments shape row record =
      answer ((rowCells shape row record).flatMap Cell.faults)
        (writtenRow (rowCells shape row record)) := by
  have cell (column : Column) : cellFragments row record column =
      answer (Cell.faults ⟨row, column, (record.get? column.name).getD .null⟩)
        [Fragment.bound (Cell.stored ⟨row, column, (record.get? column.name).getD .null⟩)] := by
    rw [cellFragments, encodeAt_eq_answer, bind_pure_answer]
    rfl
  rw [rowFragments, mapM_answer cell, bind_pure_answer, rowCells, List.flatMap_map, writtenRow,
    List.map_map]
  rfl

theorem rowsFragments_eq_answer (shape : List Column) (records : List Record) (row : Nat) :
    rowsFragments shape row records =
      answer
        (((records.zipIdx row).flatMap fun (record, row) =>
          rowCells shape row record).flatMap Cell.faults)
        ((records.zipIdx row).map fun (record, row) => writtenRow (rowCells shape row record)) := by
  induction records generalizing row with
  | nil => rfl
  | cons record rest ih =>
      rw [rowsFragments, rowFragments_eq_answer, ih, List.zipIdx_cons, List.flatMap_cons,
        List.flatMap_append, List.map_cons]
      exact bind_answer bind_pure_answer

theorem cells_eq_nil {insert : Insert} (empty : insert.table.insertShape = []) :
    insert.cells = [] := by
  simp [cells, rowCells, empty]

theorem valuesFragments_eq_answer (insert : Insert) :
    insert.valuesFragments = answer insert.valueFaults insert.writtenValues := by
  simp only [valuesFragments, valueFaults, writtenValues]
  cases empty : insert.table.insertShape.isEmpty with
  | true =>
      rw [cells_eq_nil (List.isEmpty_iff.mp empty)]
      by_cases several : 1 < insert.records.length
      · simp [several, answer]
      · simp [several, answer]
  | false =>
      rw [rowsFragments_eq_answer]
      exact bind_pure_answer

theorem fragments_eq_answer (dialect : Dialect) (insert : Insert) :
    insert.fragments dialect = answer insert.faults (insert.written dialect) := by
  rw [fragments, faults]
  split
  · rfl
  · rw [valuesFragments_eq_answer, bind_pure_answer, written]

end Insert

/-! ## Querying and deleting -/

/-- A joined table with its condition, whatever the operands of the condition are. -/
def Join.written (join : Join) : List Fragment :=
  [word (" " ++ join.kind.symbol ++ " "), identifier join.declaredName, word " AS ",
    identifier join.aliasName, word " ON "] ++ join.on.written

namespace Select

/-- The conditions of a select: those of its joins, and that of its rows. -/
def conditions (select : Select) : List Expr :=
  select.joins.map (·.on) ++ select.condition.toList

/-- The uses of an alias that the scope does not know. -/
def scopeFaults (select : Select) : List RenderError :=
  (refusals select.scope select.usedAliases).map .resolution

/-- The faults of a select: unknown aliases, then a missing projection, then wrong operands. -/
def faults (select : Select) : List RenderError :=
  select.scopeFaults ++
    ((if select.projection.isEmpty then [.empty (.noProjection select.source)] else []) ++
      select.conditions.flatMap Expr.faults)

/-- A number of rows after its keyword. -/
def writtenBound (keyword : String) : Option Int64 → List Fragment
  | none => []
  | some rows => [word keyword, Fragment.bound (.int rows)]

/-- The fragments of a statement that queries tables, whatever it refers to. -/
def written (select : Select) : List Fragment :=
  [word "SELECT "] ++ projectionFragments select.projection ++
    [word " FROM ", identifier select.sourceTable, word " AS ", identifier select.source] ++
    select.joins.flatMap Join.written ++ writtenWhere select.condition ++
    orderFragments select.order ++ writtenBound " LIMIT " select.limit ++
    writtenBound " OFFSET " select.offset ++ [word ";"]

theorem joinFragments_eq_answer (join : Join) :
    joinFragments join = answer join.on.faults join.written := by
  rw [joinFragments, Expr.fragments_eq_answer, bind_pure_answer, Join.written]

/-- A number of rows is an integer, which the codec of integers always takes. -/
theorem boundFragments_eq_ok (keyword : String) (place : CodecPlace) (rows : Option Int64) :
    boundFragments keyword place rows = .ok (writtenBound keyword rows) := by
  cases rows with
  | none => rfl
  | some rows =>
      have isBound : (Value.integer rows).isBound = true := rfl
      obtain ⟨type, own, encoded⟩ := Value.storedAs_stored isBound
      cases own
      rw [boundFragments, encodeAt, encoded]
      rfl

theorem checkedFragments_eq_answer (select : Select) :
    select.checkedFragments = answer (select.conditions.flatMap Expr.faults) select.written := by
  rw [checkedFragments, mapM_answer joinFragments_eq_answer, conditions, List.flatMap_append,
    List.flatMap_map, written]
  refine bind_answer ?_
  simp only [whereFragments_eq_answer, boundFragments_eq_ok]
  exact bind_pure_answer

theorem fragments_eq_answer (select : Select) :
    select.fragments = answer select.faults select.written := by
  rw [fragments, check_eq_answer, faults, scopeFaults]
  cases refusals select.scope select.usedAliases with
  | cons first others => rfl
  | nil =>
      show (if select.projection.isEmpty then _ else _) = _
      split
      · rfl
      · exact select.checkedFragments_eq_answer

end Select

namespace Delete

/-- The faults of a delete, which are those of its condition. -/
def faults (delete : Delete) : List RenderError :=
  delete.condition.toList.flatMap Expr.faults

/-- The fragments of a statement that deletes rows, whatever the operands of its condition
are. -/
def written (delete : Delete) : List Fragment :=
  [word "DELETE FROM ", identifier delete.declaredName, word " AS ",
    identifier delete.aliasName] ++ writtenWhere delete.condition ++ [word ";"]

theorem fragments_eq_answer (delete : Delete) :
    delete.fragments = answer delete.faults delete.written := by
  rw [fragments, whereFragments_eq_answer, bind_pure_answer, faults, written]

end Delete

/-! ## Statements of any kind -/

namespace Statement

/-- The faults of a statement. -/
def faults : Statement → List RenderError
  | createTable statement => statement.faults
  | insert statement => statement.faults
  | select statement => statement.faults
  | delete statement => statement.faults

/-- The fragments of a statement, whatever its faults are. -/
def written (dialect : Dialect) : Statement → List Fragment
  | createTable statement => statement.written dialect
  | insert statement => statement.written dialect
  | select statement => statement.written
  | delete statement => statement.written

theorem fragments_eq_answer (dialect : Dialect) (statement : Statement) :
    statement.fragments dialect = answer statement.faults (statement.written dialect) := by
  cases statement with
  | createTable create => exact create.fragments_eq_answer dialect
  | insert insert => exact insert.fragments_eq_answer dialect
  | select select => exact select.fragments_eq_answer
  | delete delete => exact delete.fragments_eq_answer

/-- **Rendering a statement fails with the first of its faults**, and without one answers with
what is written. -/
theorem compile_eq_answer (dialect : Dialect) (statement : Statement) :
    statement.compile dialect =
      answer statement.faults (.ofFragments dialect (statement.written dialect)) := by
  rw [compile, fragments_eq_answer, map_answer]

end Statement

/-! ## Well-formed statements -/

/-- Every default of the table fits its column. -/
def CreateTable.WellFormed (create : CreateTable) : Prop :=
  ∀ column ∈ create.table.columns, column.DefaultFits

/-- There are records, at most one of them if there is nothing to write of it, and every cell
fits its column. -/
def Insert.WellFormed (insert : Insert) : Prop :=
  insert.records ≠ [] ∧ (insert.table.insertShape = [] → insert.records.length ≤ 1) ∧
    ∀ cell ∈ insert.cells, cell.Fits

/-- Every alias is known to the scope, there is a projection, and every operator of the
conditions takes what stands on its right. -/
def Select.WellFormed (select : Select) : Prop :=
  (∀ aliasName ∈ select.usedAliases, aliasName ∈ select.scope.keys) ∧ select.projection ≠ [] ∧
    ∀ condition ∈ select.conditions, condition.WellPaired

/-- Every operator of the condition takes what stands on its right. -/
def Delete.WellFormed (delete : Delete) : Prop :=
  ∀ condition ∈ delete.condition, condition.WellPaired

/-- A statement that can be rendered. -/
def Statement.WellFormed : Statement → Prop
  | createTable statement => statement.WellFormed
  | insert statement => statement.WellFormed
  | select statement => statement.WellFormed
  | delete statement => statement.WellFormed

theorem Codec.faults_eq_nil_iff_exists {place : CodecPlace} {type : ColumnType} {value : Value} :
    faults place type value = [] ↔ ∃ stored, encode type value = .ok stored := by
  rw [faults]
  cases encode type value <;> simp

theorem Column.defaultFaults_eq_nil_iff {table : String} {column : Column} :
    column.defaultFaults table = [] ↔ column.DefaultFits := by
  rw [defaultFaults, DefaultFits]
  rcases column.default with _ | value | id
  · simp
  · simp [Codec.faults_eq_nil_iff_exists]
  · simp

theorem CreateTable.faults_eq_nil_iff {create : CreateTable} :
    create.faults = [] ↔ create.WellFormed := by
  simp only [faults, List.flatMap_eq_nil_iff, Column.defaultFaults_eq_nil_iff, WellFormed]

theorem Insert.valueFaults_eq_nil_iff {insert : Insert} :
    insert.valueFaults = [] ↔
      (insert.table.insertShape = [] → insert.records.length ≤ 1) ∧
        ∀ cell ∈ insert.cells, cell.Fits := by
  have cells : insert.cells.flatMap Cell.faults = [] ↔ ∀ cell ∈ insert.cells, cell.Fits := by
    simp only [List.flatMap_eq_nil_iff, Cell.faults, Codec.faults_eq_nil_iff_exists, Cell.Fits]
  rw [valueFaults, ← cells]
  by_cases nothing : insert.table.insertShape = [] ∧ 1 < insert.records.length
  · have tooMany : ¬ insert.records.length ≤ 1 := Nat.not_le_of_lt nothing.2
    simp [nothing, tooMany]
  · have few : insert.table.insertShape = [] → insert.records.length ≤ 1 := by
      intro empty
      exact Nat.le_of_not_lt fun several => nothing ⟨empty, several⟩
    rw [if_neg (by simpa using nothing)]
    exact (and_iff_right few).symm

theorem Insert.faults_eq_nil_iff {insert : Insert} :
    insert.faults = [] ↔ insert.WellFormed := by
  rw [faults, WellFormed, ← valueFaults_eq_nil_iff]
  cases insert.records <;> simp

theorem Select.faults_eq_nil_iff {select : Select} :
    select.faults = [] ↔ select.WellFormed := by
  have scope : select.scopeFaults = [] ↔
      ∀ aliasName ∈ select.usedAliases, aliasName ∈ select.scope.keys := by
    rw [scopeFaults, List.map_eq_nil_iff, refusals_eq_nil_iff]
  have projection : (if select.projection.isEmpty then
      [RenderError.empty (.noProjection select.source)] else []) = [] ↔
        select.projection ≠ [] := by
    cases select.projection <;> simp
  rw [faults, List.append_eq_nil_iff, List.append_eq_nil_iff, scope, projection,
    List.flatMap_eq_nil_iff, WellFormed]
  simp only [Expr.faults_eq_nil_iff]

theorem Delete.faults_eq_nil_iff {delete : Delete} :
    delete.faults = [] ↔ delete.WellFormed := by
  simp [faults, WellFormed, Expr.faults_eq_nil_iff]

theorem Statement.faults_eq_nil_iff {statement : Statement} :
    statement.faults = [] ↔ statement.WellFormed := by
  cases statement with
  | createTable create => exact CreateTable.faults_eq_nil_iff
  | insert insert => exact Insert.faults_eq_nil_iff
  | select select => exact Select.faults_eq_nil_iff
  | delete delete => exact Delete.faults_eq_nil_iff

/-- Every fault of a condition is an operator with an operand that it does not take. -/
theorem Expr.exists_mispaired_of_mem_faults {condition : Expr} {error : RenderError}
    (member : error ∈ condition.faults) :
    ∃ operator operand, error = .operand (.mispaired operator operand) := by
  obtain ⟨cause, named, rfl⟩ := List.mem_map.mp member
  obtain ⟨node, _, mispaired⟩ := List.mem_filterMap.mp named
  cases node <;> simp only [mispairing?, Option.some.injEq, reduceCtorEq] at mispaired
  all_goals exact ⟨_, _, congrArg RenderError.operand mispaired.symm⟩

/-- Every fault of a select is an unknown alias, a missing projection or a wrong operand. -/
theorem Select.cases_of_mem_faults {select : Select} {error : RenderError}
    (member : error ∈ select.faults) :
    (∃ aliasName, error = .resolution (.unregistered aliasName)) ∨
      error = .empty (.noProjection select.source) ∨
      ∃ operator operand, error = .operand (.mispaired operator operand) := by
  simp only [faults, scopeFaults, refusals, List.mem_append, List.mem_map,
    List.mem_flatMap] at member
  rcases member with ⟨_, ⟨aliasName, _, rfl⟩, rfl⟩ | projection | ⟨condition, _, operand⟩
  · exact .inl ⟨aliasName, rfl⟩
  · split at projection
    · exact .inr (.inl (List.mem_singleton.mp projection))
    · cases projection
  · exact .inr (.inr (Expr.exists_mispaired_of_mem_faults operand))

theorem Delete.exists_mispaired_of_mem_faults {delete : Delete} {error : RenderError}
    (member : error ∈ delete.faults) :
    ∃ operator operand, error = .operand (.mispaired operator operand) := by
  obtain ⟨condition, _, operand⟩ := List.mem_flatMap.mp member
  exact Expr.exists_mispaired_of_mem_faults operand

theorem Codec.exists_codec_of_mem_faults {place : CodecPlace} {type : ColumnType} {value : Value}
    {error : RenderError} (member : error ∈ faults place type value) :
    ∃ failure, error = .codec failure := by
  rw [faults] at member
  cases encoded : encode type value with
  | ok stored => simp [encoded] at member
  | error cause =>
      rw [encoded] at member
      exact ⟨_, List.mem_singleton.mp member⟩

/-- No statement has a literal without a column type for a fault. -/
theorem Statement.untyped_notMem_faults (statement : Statement) (kind : String) :
    .operand (.untyped kind) ∉ statement.faults := by
  intro member
  cases statement with
  | createTable create =>
      obtain ⟨column, _, fault⟩ := List.mem_flatMap.mp member
      rw [Column.defaultFaults] at fault
      split at fault
      · obtain ⟨failure, impossible⟩ := Codec.exists_codec_of_mem_faults fault
        cases impossible
      · cases fault
  | insert insert =>
      rw [faults, Insert.faults, Insert.valueFaults] at member
      split at member
      · cases List.mem_singleton.mp member
      · split at member
        · cases List.mem_singleton.mp member
        · obtain ⟨cell, _, fault⟩ := List.mem_flatMap.mp member
          obtain ⟨failure, impossible⟩ := Codec.exists_codec_of_mem_faults fault
          cases impossible
  | select select =>
      rcases Select.cases_of_mem_faults member with ⟨_, other⟩ | other | ⟨_, _, other⟩ <;>
        cases other
  | delete delete =>
      obtain ⟨_, _, impossible⟩ := Delete.exists_mispaired_of_mem_faults member
      cases impossible

/-- **A statement renders exactly when it is well formed, and any other one fails with the first
of its faults.** No select fails for a value, a delete only for an operator, and no statement for
a literal that no column type could hold. -/
theorem Statement.fails_first (dialect : Dialect) :
    (∀ statement : Statement,
      ((∃ compiled, statement.compile dialect = .ok compiled) ↔ statement.WellFormed) ∧
        ∀ error, statement.compile dialect = .error error ↔
          statement.faults.head? = some error) ∧
      (∀ statement failure,
        (Statement.select statement).compile dialect ≠ .error (.codec failure)) ∧
      (∀ statement error, (Statement.delete statement).compile dialect = .error error →
        ∃ operator operand, error = .operand (.mispaired operator operand)) ∧
      ∀ statement kind, Statement.compile dialect statement ≠ .error (.operand (.untyped kind)) := by
  have failing (statement : Statement) (error : RenderError) :
      statement.compile dialect = .error error ↔ statement.faults.head? = some error := by
    rw [compile_eq_answer, answer_eq_error_iff]
  have member {statement : Statement} {error : RenderError}
      (failed : statement.compile dialect = .error error) : error ∈ statement.faults :=
    List.mem_of_mem_head? ((failing _ _).mp failed)
  refine ⟨fun statement => ⟨?_, failing statement⟩, ?_, ?_, ?_⟩
  · rw [← faults_eq_nil_iff, compile_eq_answer]
    simp [answer_eq_ok_iff]
  · intro statement failure failed
    rcases Select.cases_of_mem_faults (member failed) with ⟨_, other⟩ | other | ⟨_, _, other⟩ <;>
      cases other
  · intro statement error failed
    exact Delete.exists_mispaired_of_mem_faults (member failed)
  · intro statement kind failed
    exact statement.untyped_notMem_faults kind (member failed)

/-- A column of numbers under the alias `r`. -/
def Column.reading : Column := { name := "level", type := .integer, owner := "r" }

/-- A deletion in which an equality takes a list, and after it a membership a single literal. -/
def Delete.ofWrongOperands : Delete :=
  ⟨"readings", "r", some (.not (.all [.ofList (.column .reading) .eq [.integer 1],
    .binary (.column .reading) .isIn (.literal .null)]))⟩

/-- A query with an output of an unknown alias, with a table joined under a second one on a column
of a third, and with an equality that takes a list. -/
def Select.ofUnknownAliases : Select where
  scope := Dictionary.empty.insert "r" "readings"
  projection := [.ofColumn { Column.reading with owner := "p" }]
  source := "r"
  joins := [⟨.inner, "readings", "s",
    .binary (.column .reading) .eq (.column { Column.reading with owner := "t" })⟩]
  condition := some (.ofList (.column .reading) .eq [.integer 1])

/-- The query fails with the alias of its join, whose condition, the output and the equality come
later; and the deletion fails with its equality, before the membership. -/
theorem Statement.fails_first_ofUnknownAliases :
    (Statement.select .ofUnknownAliases).faults =
        [.resolution (.unregistered "s"), .resolution (.unregistered "t"),
          .resolution (.unregistered "p"), .operand (.mispaired .eq .list)] ∧
      (Statement.select .ofUnknownAliases).compile .sqlite =
        .error (.resolution (.unregistered "s")) ∧
      (Statement.delete .ofWrongOperands).compile .sqlite =
        .error (.operand (.mispaired .eq .list)) ∧
      ∃ operator operand,
        RenderError.operand (.mispaired .eq .list) = .operand (.mispaired operator operand) :=
  ⟨rfl, (((fails_first .sqlite).1 _).2 _).mpr rfl, (((fails_first .sqlite).1 _).2 _).mpr rfl,
    (fails_first .sqlite).2.2.1 .ofWrongOperands _ rfl⟩

end TypedSql
