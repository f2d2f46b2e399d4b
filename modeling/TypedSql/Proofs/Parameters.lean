import Mathlib.Data.List.Forall2
import TypedSql.Proofs.Faults

/-!
# The order of the parameters

The parameters of a statement are the values that it binds, in the order in which a reader of
the statement meets them. `Expr.literals` lists the bound literals of an expression from left to
right, `Select.payload` and `Delete.payload` those of a statement, and `Insert.cells` the cells
of an insert row by row. `Statement.Binds` says which parameters these listings ask for: every
literal under the codec of its own type, every cell under the codec of its column.

An expression can also be written at the end of a statement that has been begun, text and
parameters together. `Expr.writeOn` does so, and it appends what the expression writes on its
own, whatever has been written before (`Expr.writeOn_eq_addAll`,
`Compiled.addAll_eq_append`).
-/

set_option autoImplicit false

namespace TypedSql

open Fragment Outcome

/-! ## Bound literals -/

namespace Value

theorem bound?_eq_ite (value : Value) :
    value.bound? = if value.isBound then some value.stored else none := by
  cases value <;> rfl

theorem filterMap_bound? (values : List Value) :
    values.filterMap (·.bound?) = (values.filter (·.isBound)).map (·.stored) := by
  induction values with
  | nil => rfl
  | cons first rest ih =>
      rw [List.filterMap_cons, List.filter_cons, bound?_eq_ite, ih]
      cases first.isBound <;> rfl

end Value

namespace Expr

mutual

/-- The bound literals of an expression from left to right. -/
def literals : Expr → List Value
  | column _ => []
  | literal value => [value].filter (·.isBound)
  | binary left _ right => left.literals ++ right.literals
  | ofList left _ values => left.literals ++ values.filter (·.isBound)
  | ofTruth left _ _ => left.literals
  | junction _ members => literalsOfAll members
  | not inner => inner.literals

/-- The bound literals of a list of expressions from left to right. -/
def literalsOfAll : List Expr → List Value
  | [] => []
  | first :: rest => first.literals ++ literalsOfAll rest

end

mutual

/-- What an expression binds is its literals in stored form. -/
theorem bound_eq_map_literals : ∀ e : Expr, e.bound = e.literals.map (·.stored)
  | column _ => rfl
  | literal value => by
      rw [bound, literals, ← Value.filterMap_bound?, List.filterMap_cons]
      cases value.bound? <;> rfl
  | binary left _ right => by
      rw [bound, literals, List.map_append, bound_eq_map_literals left,
        bound_eq_map_literals right]
  | ofList left _ values => by
      rw [bound, literals, List.map_append, bound_eq_map_literals left, Value.filterMap_bound?]
  | ofTruth left _ _ => bound_eq_map_literals left
  | junction _ members => boundOfAll_eq_map_literals members
  | not inner => bound_eq_map_literals inner

theorem boundOfAll_eq_map_literals : ∀ members : List Expr,
    boundOfAll members = (literalsOfAll members).map (·.stored)
  | [] => rfl
  | first :: rest => by
      rw [boundOfAll, literalsOfAll, List.map_append, bound_eq_map_literals first,
        boundOfAll_eq_map_literals rest]

end

mutual

theorem isBound_of_mem_literals : ∀ (e : Expr), ∀ value ∈ e.literals, value.isBound = true
  | column _ => fun _ member => nomatch member
  | literal _ => fun _ member => by
      rw [literals] at member
      exact (List.mem_filter.mp member).2
  | binary left _ right => fun value member =>
      (List.mem_append.mp member).elim (isBound_of_mem_literals left value)
        (isBound_of_mem_literals right value)
  | ofList left _ _ => fun value member =>
      (List.mem_append.mp member).elim (isBound_of_mem_literals left value)
        fun inList => (List.mem_filter.mp inList).2
  | ofTruth left _ _ => isBound_of_mem_literals left
  | junction _ members => isBound_of_mem_literalsOfAll members
  | not inner => isBound_of_mem_literals inner

theorem isBound_of_mem_literalsOfAll : ∀ (members : List Expr),
    ∀ value ∈ literalsOfAll members, value.isBound = true
  | [] => fun _ member => nomatch member
  | first :: rest => fun value member =>
      (List.mem_append.mp member).elim (isBound_of_mem_literals first value)
        (isBound_of_mem_literalsOfAll rest value)

end

end Expr

/-! ## What each kind of statement binds -/

/-- The values that a select binds: the literals of its conditions, its limit and its offset. -/
def Select.payload (select : Select) : List Value :=
  select.conditions.flatMap Expr.literals ++
    (select.limit.toList ++ select.offset.toList).map .integer

/-- The values that a delete binds: the literals of its condition. -/
def Delete.payload (delete : Delete) : List Value :=
  delete.condition.toList.flatMap Expr.literals

/-- The parameters that a statement of each kind binds, in order. The parameter of an insert at
`row * columns + index` is that of the record `row` and the written column `index`. -/
def Statement.Binds : Statement → List Stored → Prop
  | createTable _, parameters => parameters = []
  | insert statement, parameters =>
      let columns := statement.table.insertShape
      parameters.length = statement.records.length * columns.length ∧
        ∀ row record index column, statement.records[row]? = some record →
          columns[index]? = some column →
            ∃ stored, parameters[row * columns.length + index]? = some stored ∧
              Codec.encode column.type ((record.get? column.name).getD .null) = .ok stored
  | select statement, parameters => List.Forall₂ Value.StoredAs statement.payload parameters
  | delete statement, parameters => List.Forall₂ Value.StoredAs statement.payload parameters

/-! ### Parameters of fragments -/

/-- The parameters of a list of fragments. -/
def Fragment.parametersOfAll (fragments : List Fragment) : List Stored :=
  fragments.filterMap (·.parameter?)

section

variable (rest : List Fragment)

@[simp] theorem Fragment.parametersOfAll_nil : parametersOfAll [] = [] := rfl

@[simp] theorem Fragment.parametersOfAll_word (text : String) :
    parametersOfAll (word text :: rest) = parametersOfAll rest := rfl

@[simp] theorem Fragment.parametersOfAll_identifier (name : String) :
    parametersOfAll (identifier name :: rest) = parametersOfAll rest := rfl

@[simp] theorem Fragment.parametersOfAll_inline (value : Stored) :
    parametersOfAll (inline value :: rest) = parametersOfAll rest := rfl

@[simp] theorem Fragment.parametersOfAll_bound (value : Stored) :
    parametersOfAll (bound value :: rest) = value :: parametersOfAll rest := rfl

@[simp] theorem Fragment.parametersOfAll_append (first second : List Fragment) :
    parametersOfAll (first ++ second) = parametersOfAll first ++ parametersOfAll second :=
  List.filterMap_append

end

theorem Fragment.parametersOfAll_separated (separator : String) (parts : List (List Fragment)) :
    parametersOfAll (separated separator parts) = parts.flatMap parametersOfAll :=
  Expr.filterMap_separated separator parts

@[simp] theorem Fragment.parametersOfAll_wordIf (condition : Bool) (text : String) :
    parametersOfAll (wordIf condition text) = [] := by
  cases condition <;> rfl

@[simp] theorem Expr.parametersOfAll_written (e : Expr) :
    parametersOfAll e.written = e.literals.map (·.stored) :=
  e.parameters_written.trans e.bound_eq_map_literals

/-! ### Creating tables -/

@[simp] theorem Column.parametersOfAll_written (dialect : Dialect) (column : Column) :
    parametersOfAll (column.written dialect) = [] := by
  have default (stored : Option Stored) : parametersOfAll (writtenDefault stored) = [] := by
    cases stored <;> rfl
  simp [written, keyFragments, default]

/-- A statement that creates a table binds nothing. -/
theorem CreateTable.parametersOfAll_written (dialect : Dialect) (create : CreateTable) :
    parametersOfAll (create.written dialect) = [] := by
  simp [written, parametersOfAll_separated, List.flatMap_map]

/-! ### Inserting records -/

namespace Insert

theorem parametersOfAll_writtenRow (cells : List Cell) :
    parametersOfAll (writtenRow cells) = cells.map Cell.stored := by
  simp [writtenRow, parametersOfAll_separated, List.flatMap_map]
  exact (List.map_eq_flatMap ..).symm

theorem parametersOfAll_returningFragments (dialect : Dialect) (outputs : List Output) :
    parametersOfAll (returningFragments dialect outputs) = [] := by
  rw [returningFragments]
  split <;> simp [parametersOfAll_separated, List.flatMap_map]

theorem parametersOfAll_writtenValues (insert : Insert) :
    parametersOfAll insert.writtenValues = insert.cells.map Cell.stored := by
  rw [writtenValues]
  split
  next empty => rw [cells_eq_nil (List.isEmpty_iff.mp empty)]; rfl
  next =>
    have columns : parametersOfAll (separated ","
        (insert.table.insertShape.map fun column => [identifier column.sqlName])) = [] := by
      simp [parametersOfAll_separated, List.flatMap_map]
    simp [columns, parametersOfAll_separated, List.flatMap_map, parametersOfAll_writtenRow, cells,
      List.map_flatMap]

/-- What an insert writes has its cells for its parameters. -/
theorem parametersOfAll_written (dialect : Dialect) (insert : Insert) :
    parametersOfAll (insert.written dialect) = insert.cells.map Cell.stored := by
  simp [written, parametersOfAll_writtenValues, parametersOfAll_returningFragments]

/-! The cells are laid out row by row. -/

theorem length_rowCells (shape : List Column) (row : Nat) (record : Record) :
    (rowCells shape row record).length = shape.length :=
  List.length_map ..

theorem length_rows (shape : List Column) (records : List Record) (start : Nat) :
    ((records.zipIdx start).flatMap fun (record, row) => rowCells shape row record).length =
      records.length * shape.length := by
  induction records generalizing start with
  | nil => simp
  | cons record rest ih =>
      rw [List.zipIdx_cons, List.flatMap_cons, List.length_append, ih, length_rowCells,
        List.length_cons, Nat.succ_mul, Nat.add_comm]

theorem length_cells (insert : Insert) :
    insert.cells.length = insert.records.length * insert.table.insertShape.length :=
  length_rows _ _ 0

theorem getElem?_rows {shape : List Column} {records : List Record} {start row : Nat}
    {record : Record} {index : Nat} {column : Column} (inRecords : records[row]? = some record)
    (inShape : shape[index]? = some column) :
    ((records.zipIdx start).flatMap fun (record, row) =>
      rowCells shape row record)[row * shape.length + index]? =
        some ⟨start + row, column, (record.get? column.name).getD .null⟩ := by
  have inRow : index < shape.length := (List.getElem?_eq_some_iff.mp inShape).1
  induction records generalizing start row with
  | nil => cases inRecords
  | cons first rest ih =>
      rw [List.zipIdx_cons, List.flatMap_cons]
      cases row with
      | zero =>
          cases inRecords
          rw [Nat.zero_mul, Nat.zero_add, List.getElem?_append_left (by rwa [length_rowCells])]
          simp [rowCells, inShape]
      | succ row =>
          -- The row of the first record comes before, with a cell for every column.
          have behind : (row + 1) * shape.length + index - shape.length =
              row * shape.length + index := by
            rw [Nat.succ_mul]
            omega
          have notFirst :
              (rowCells shape start first).length ≤ (row + 1) * shape.length + index := by
            rw [length_rowCells, Nat.succ_mul]
            omega
          rw [List.getElem?_append_right notFirst, length_rowCells, behind, ih inRecords,
            Nat.add_assoc, Nat.add_comm 1 row]

/-- The cell of a record and a written column. -/
theorem getElem?_cells {insert : Insert} {row : Nat} {record : Record} {index : Nat}
    {column : Column} (inRecords : insert.records[row]? = some record)
    (inShape : insert.table.insertShape[index]? = some column) :
    insert.cells[row * insert.table.insertShape.length + index]? =
      some ⟨row, column, (record.get? column.name).getD .null⟩ :=
  (getElem?_rows inRecords inShape).trans (by rw [Nat.zero_add])

end Insert

/-! ### Querying and deleting -/

@[simp] theorem parametersOfAll_writtenWhere (condition : Option Expr) :
    parametersOfAll (writtenWhere condition) =
      (condition.toList.flatMap Expr.literals).map (·.stored) := by
  cases condition <;> simp [writtenWhere]

namespace Select

@[simp] theorem parametersOfAll_projectionFragments (outputs : List Output) :
    parametersOfAll (projectionFragments outputs) = [] := by
  simp [projectionFragments, parametersOfAll_separated, List.flatMap_map, Column.fragments]

@[simp] theorem parametersOfAll_orderFragments (terms : List OrderTerm) :
    parametersOfAll (orderFragments terms) = [] := by
  rw [orderFragments]
  split <;> simp [parametersOfAll_separated, List.flatMap_map, Column.fragments]

@[simp] theorem parametersOfAll_writtenBound (keyword : String) (rows : Option Int64) :
    parametersOfAll (writtenBound keyword rows) = rows.toList.map .int := by
  cases rows <;> rfl

theorem parametersOfAll_joins (joins : List Join) :
    parametersOfAll (joins.flatMap Join.written) =
      ((joins.map (·.on)).flatMap Expr.literals).map (·.stored) := by
  induction joins with
  | nil => rfl
  | cons first rest ih => simp [Join.written, ih]

/-- What a select writes has its payload for its parameters. -/
theorem parametersOfAll_written (select : Select) :
    parametersOfAll select.written = select.payload.map (·.stored) := by
  simp [written, payload, conditions, parametersOfAll_joins]
  rfl

end Select

/-- What a delete writes has its payload for its parameters. -/
theorem Delete.parametersOfAll_written (delete : Delete) :
    parametersOfAll delete.written = delete.payload.map (·.stored) := by
  simp [written, payload]

/-! ## Writing at the end of a statement that has been begun -/

namespace Compiled

/-- A statement that has been begun, with one more fragment at its end. -/
def add (dialect : Dialect) (begun : Compiled) (fragment : Fragment) : Compiled where
  text := begun.text ++ String.ofList (fragment.chars dialect)
  parameters := begun.parameters ++ fragment.parameter?.toList

/-- A statement that has been begun, with fragments at its end. -/
def addAll (dialect : Dialect) (begun : Compiled) (fragments : List Fragment) : Compiled :=
  fragments.foldl (add dialect) begun

/-- One text and its parameters after another. -/
def append (begun more : Compiled) : Compiled :=
  ⟨begun.text ++ more.text, begun.parameters ++ more.parameters⟩

@[simp] theorem addAll_append (dialect : Dialect) (begun : Compiled)
    (first second : List Fragment) :
    begun.addAll dialect (first ++ second) = (begun.addAll dialect first).addAll dialect second :=
  List.foldl_append

@[simp] theorem addAll_cons (dialect : Dialect) (begun : Compiled) (first : Fragment)
    (rest : List Fragment) :
    begun.addAll dialect (first :: rest) = (begun.add dialect first).addAll dialect rest := rfl

@[simp] theorem addAll_nil (dialect : Dialect) (begun : Compiled) :
    begun.addAll dialect [] = begun := rfl

/-- Adding fragments one by one is appending their text and their parameters. -/
theorem addAll_eq_append (dialect : Dialect) (begun : Compiled) (fragments : List Fragment) :
    begun.addAll dialect fragments = begun.append (ofFragments dialect fragments) := by
  induction fragments generalizing begun with
  | nil => simp [append, ofFragments]
  | cons first rest ih =>
      have parameters : (first :: rest).filterMap (·.parameter?) =
          first.parameter?.toList ++ rest.filterMap (·.parameter?) := by
        cases found : first.parameter? <;> simp [found]
      simp [ih, add, append, ofFragments, parameters, String.append_assoc]

end Compiled

namespace Expr

mutual

/-- Writes an expression at the end of a statement that has been begun. -/
def writeOn (dialect : Dialect) : Expr → Compiled → Except RenderError Compiled
  | column reference, begun => .ok (begun.addAll dialect reference.fragments)
  | literal value, begun => do
      let fragment ← value.fragment
      pure (begun.add dialect fragment)
  | binary left operator right, begun =>
      if operator.isTruthTest then .error (.operand (.mispaired operator .expression))
      else if operator.isMembership then
        if right.isLiteral then .error (.operand (.mispaired operator .singleLiteral))
        else do
          let begun ← left.writeOn dialect (begun.add dialect (word "("))
          let begun ← right.writeOn dialect (begun.add dialect (word (operator.infixed ++ "(")))
          pure (begun.add dialect (word "))"))
      else do
        let begun ← left.writeOn dialect (begun.add dialect (word "("))
        let begun ← right.writeOn dialect (begun.add dialect (word operator.infixed))
        pure (begun.add dialect (word ")"))
  | ofList left operator values, begun =>
      if operator.isMembership then do
        let begun ← left.writeOn dialect (begun.add dialect (word "("))
        let begun := begun.add dialect (word (operator.infixed ++ "("))
        let members ← values.mapM (·.fragment)
        let begun := begun.addAll dialect (separated "," (members.map fun member => [member]))
        pure (begun.add dialect (word "))"))
      else .error (.operand (.mispaired operator .list))
  | ofTruth left operator keyword, begun =>
      if operator.isTruthTest then do
        let begun ← left.writeOn dialect (begun.add dialect (word "("))
        let begun := begun.add dialect (word (operator.infixed ++ keyword.symbol))
        pure (begun.add dialect (word ")"))
      else .error (.operand (.mispaired operator .truthKeyword))
  | junction kind [], begun => .ok (begun.add dialect (word kind.neutral.symbol))
  | junction kind (first :: rest), begun => do
      let begun ← first.writeOn dialect (begun.add dialect (word "("))
      let begun ← writeRestOn dialect (" " ++ kind.symbol ++ " ") rest begun
      pure (begun.add dialect (word ")"))
  | not inner, begun => do
      let begun ← inner.writeOn dialect (begun.add dialect (word "NOT ("))
      pure (begun.add dialect (word ")"))

/-- Writes expressions with a separator before each. -/
def writeRestOn (dialect : Dialect) (separator : String) :
    List Expr → Compiled → Except RenderError Compiled
  | [], begun => .ok begun
  | first :: rest, begun => do
      let begun ← first.writeOn dialect (begun.add dialect (word separator))
      writeRestOn dialect separator rest begun

end

variable {dialect : Dialect}

mutual

/-- An expression is written as its fragments one by one. -/
theorem writeOn_eq_addAll : ∀ (e : Expr) (begun : Compiled),
    e.writeOn dialect begun = e.fragments.map (begun.addAll dialect)
  | column reference, begun => rfl
  | literal value, begun => by
      rw [writeOn, fragments]
      cases value.fragment <;> rfl
  | binary left operator right, begun => by
      rw [writeOn, fragments]
      split
      · rfl
      · split
        · split
          · rfl
          · simp only [writeOn_eq_addAll left, writeOn_eq_addAll right]
            cases left.fragments <;> cases right.fragments <;>
              simp [Except.map, bind, Except.bind, pure, Except.pure]
        · simp only [writeOn_eq_addAll left, writeOn_eq_addAll right]
          cases left.fragments <;> cases right.fragments <;>
            simp [Except.map, bind, Except.bind, pure, Except.pure]
  | ofList left operator values, begun => by
      rw [writeOn, fragments]
      split
      · rw [writeOn_eq_addAll left]
        cases left.fragments <;> cases values.mapM (·.fragment) <;>
          simp [Except.map, bind, Except.bind, pure, Except.pure]
      · rfl
  | ofTruth left operator keyword, begun => by
      rw [writeOn, fragments]
      split
      · rw [writeOn_eq_addAll left]
        cases left.fragments <;> simp [Except.map, bind, Except.bind, pure, Except.pure]
      · rfl
  | junction kind [], begun => rfl
  | junction kind (first :: rest), begun => by
      rw [writeOn, fragments, fragmentsOfAll, writeOn_eq_addAll first]
      simp only [writeRestOn_eq_addAll]
      cases first.fragments <;> cases fragmentsOfAll rest <;>
        simp [Except.map, bind, Except.bind, pure, Except.pure, separated_cons]
  | not inner, begun => by
      rw [writeOn, fragments, writeOn_eq_addAll inner]
      cases inner.fragments <;> simp [Except.map, bind, Except.bind, pure, Except.pure]

theorem writeRestOn_eq_addAll (separator : String) : ∀ (members : List Expr) (begun : Compiled),
    writeRestOn dialect separator members begun = (fragmentsOfAll members).map fun parts =>
      begun.addAll dialect (parts.flatMap fun part => word separator :: part)
  | [], begun => rfl
  | first :: rest, begun => by
      rw [writeRestOn, fragmentsOfAll, writeOn_eq_addAll first]
      simp only [writeRestOn_eq_addAll separator rest]
      cases first.fragments <;> cases fragmentsOfAll rest <;>
        simp [Except.map, bind, Except.bind, pure, Except.pure]

end

end Expr

/-! ## The order -/

/-- Bound values pass the codecs of their own types. -/
theorem Value.forall₂_storedAs {values : List Value}
    (bound : ∀ value ∈ values, value.isBound = true) :
    List.Forall₂ StoredAs values (values.map (·.stored)) := by
  rw [List.forall₂_map_right_iff, List.forall₂_same]
  exact fun value member => storedAs_stored (bound value member)

theorem Expr.isBound_of_mem_flatMap {conditions : List Expr} {value : Value}
    (member : value ∈ conditions.flatMap literals) : value.isBound = true := by
  obtain ⟨condition, _, inside⟩ := List.mem_flatMap.mp member
  exact condition.isBound_of_mem_literals value inside

theorem Select.isBound_of_mem_payload {select : Select} {value : Value}
    (member : value ∈ select.payload) : value.isBound = true := by
  rcases List.mem_append.mp member with literal | rows
  · exact Expr.isBound_of_mem_flatMap literal
  · obtain ⟨_, _, rfl⟩ := List.mem_map.mp rows
    rfl

/-- A cell that fits its column is stored as the codec of the column says. -/
theorem Insert.Cell.Fits.encode_eq {cell : Cell} (fits : cell.Fits) :
    Codec.encode cell.column.type cell.value = .ok cell.stored := by
  obtain ⟨stored, encoded⟩ := fits
  rw [Cell.stored, Codec.stored, encoded]
  rfl

theorem Insert.binds {insert : Insert} (wellFormed : insert.WellFormed) :
    (Statement.insert insert).Binds (insert.cells.map Cell.stored) := by
  refine ⟨(List.length_map ..).trans insert.length_cells, ?_⟩
  intro row record index column inRecords inShape
  have found := getElem?_cells inRecords inShape
  refine ⟨_, by rw [List.getElem?_map, found, Option.map_some], ?_⟩
  exact (wellFormed.2.2 _ (List.mem_of_getElem? found)).encode_eq

/-- **The parameters of a statement are what it binds, in order**, and an expression at the end
of any text appends what it writes on its own. -/
theorem Statement.binds_in_order (dialect : Dialect) :
    (∀ statement compiled, Statement.compile dialect statement = .ok compiled →
      statement.Binds compiled.parameters) ∧
      ∀ (e : Expr) (begun : Compiled), e.writeOn dialect begun =
        e.fragments.map fun fragments => begun.append (.ofFragments dialect fragments) := by
  constructor
  · intro statement compiled rendered
    rw [compile_eq_answer, answer_eq_ok_iff, faults_eq_nil_iff] at rendered
    obtain ⟨wellFormed, rfl⟩ := rendered
    show statement.Binds (parametersOfAll (statement.written dialect))
    cases statement with
    | createTable create => exact create.parametersOfAll_written dialect
    | insert insert =>
        rw [written, insert.parametersOfAll_written]
        exact Insert.binds wellFormed
    | select select =>
        rw [written, select.parametersOfAll_written]
        exact Value.forall₂_storedAs fun _ => Select.isBound_of_mem_payload
    | delete delete =>
        rw [written, delete.parametersOfAll_written]
        exact Value.forall₂_storedAs fun _ => Expr.isBound_of_mem_flatMap
  · intro e begun
    rw [Expr.writeOn_eq_addAll]
    exact congrArg e.fragments.map
      (funext fun fragments => begun.addAll_eq_append dialect fragments)

/-- A query with literals in a join, in a list and in a negation, a limit and an offset. -/
def Select.ofReadings : Select where
  scope := (Dictionary.empty.insert "r" "readings").insert "s" "readings"
  projection := [.ofColumn .reading]
  source := "r"
  joins := [⟨.left, "readings", "s", .binary (.column .reading) .lt (.literal (.integer 1))⟩]
  condition := some (.all [.ofList (.column .reading) .isIn [.text "a", .null, .integer 2],
    .not (.binary (.literal (.bool true)) .eq (.literal (.integer 3)))])
  limit := some 4
  offset := some 5

/-- The query binds its literals in order, except NULL and the truth value. -/
theorem Statement.binds_in_order_ofReadings :
    ∃ compiled, (Statement.select .ofReadings).compile .sqlite = .ok compiled ∧
      compiled.parameters = [.int 1, .text "a", .int 2, .int 3, .int 4, .int 5] ∧
      (Statement.select .ofReadings).Binds compiled.parameters :=
  ⟨_, rfl, rfl, (binds_in_order .sqlite).1 _ _ rfl⟩

end TypedSql
