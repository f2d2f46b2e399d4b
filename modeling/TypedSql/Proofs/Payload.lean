import TypedSql.Proofs.Mapping
import TypedSql.Proofs.Parameters

/-!
# Values do not reach the text

`Value.blank` puts one fixed value in the place of every literal that is bound, and
`Select.blank` and `Delete.blank` do so in a whole statement, limit and offset included. So two
statements differ in nothing but bound values exactly when they agree once these are blank. Such
statements fail alike, or have the same text and as many parameters, which differ only where the
values differ (`SameButValues`).

Of an insert all cells are bound, also a NULL. Its text is that of the table, of the number of
its records and of what it returns, and each parameter is that of its own cell.

`Statement.text_without_values` states this of all queries, deletions and insertions. What is
looked at is a view of the fragments in which bound values are hidden (`Fragment.unbound`).
-/

set_option autoImplicit false

namespace TypedSql

open Fragment Outcome

/-! ## Blank statements -/

/-- A literal with a fixed value in the place of one that is bound. -/
def Value.blank (value : Value) : Value := if value.isBound then .integer 0 else value

/-- An expression with blank literals. -/
def Expr.blank (e : Expr) : Expr := e.map id Value.blank

/-- A join with blank literals in its condition. -/
def Join.blank (join : Join) : Join := { join with on := join.on.blank }

/-- A select with blank literals in its conditions, and with a fixed limit and a fixed offset
where it has them. -/
def Select.blank (select : Select) : Select :=
  { select with
    joins := select.joins.map Join.blank
    condition := select.condition.map Expr.blank
    limit := select.limit.map fun _ => 0
    offset := select.offset.map fun _ => 0 }

/-- A delete with blank literals in its condition. -/
def Delete.blank (delete : Delete) : Delete :=
  { delete with condition := delete.condition.map Expr.blank }

/-- Two ways to render that differ in values only. Both fail alike, or both have the same text
and a parameter for every value, and where the values agree the parameters do. -/
def SameButValues (values values' : List Value) :
    Except RenderError Compiled → Except RenderError Compiled → Prop
  | .ok one, .ok other =>
      one.text = other.text ∧ one.parameters.length = values.length ∧
        other.parameters.length = values.length ∧
        ∀ index : Nat, values[index]? = values'[index]? →
          one.parameters[index]? = other.parameters[index]?
  | .error error, .error error' => error = error'
  | _, _ => False

/-! ## Hidden values -/

/-- A fragment without the value that it binds. -/
def Fragment.unbound : Fragment → Fragment
  | bound _ => bound .null
  | fragment => fragment

theorem Fragment.chars_unbound (dialect : Dialect) (fragment : Fragment) :
    fragment.unbound.chars dialect = fragment.chars dialect := by
  cases fragment <;> rfl

/-- The text does not show what is bound. -/
theorem Compiled.text_eq_of_unbound {dialect : Dialect} {first second : List Fragment}
    (same : first.map unbound = second.map unbound) :
    (ofFragments dialect first).text = (ofFragments dialect second).text := by
  have hidden (fragments : List Fragment) : fragments.flatMap (·.chars dialect) =
      (fragments.map unbound).flatMap (·.chars dialect) := by
    rw [List.flatMap_map]
    exact List.flatMap_congr fun fragment _ => (fragment.chars_unbound dialect).symm
  rw [ofFragments, ofFragments, hidden first, same, ← hidden second]

theorem Value.unbound_written_blank (value : Value) :
    value.blank.written.unbound = value.written.unbound := by
  cases value with
  | bool truth => cases truth <;> rfl
  | _ => rfl

theorem Expr.faults_blank (e : Expr) : e.blank.faults = e.faults := faults_map e

theorem Expr.aliases_blank (e : Expr) : e.blank.aliases = e.aliases := by
  rw [aliases_eq_map_columns, aliases_eq_map_columns, blank, columns_map, List.map_id]

theorem Expr.unbound_written_blank (e : Expr) :
    e.blank.written.map unbound = e.written.map unbound :=
  written_map (fun _ => rfl) Value.unbound_written_blank e

theorem unbound_writtenWhere_blank (condition : Option Expr) :
    (writtenWhere (condition.map Expr.blank)).map unbound =
      (writtenWhere condition).map unbound := by
  cases condition with
  | none => rfl
  | some condition => simp [writtenWhere, condition.unbound_written_blank]

/-! ## Queries -/

namespace Select

theorem usedAliases_blank (select : Select) : select.blank.usedAliases = select.usedAliases := by
  have joins : select.blank.joins.flatMap joinAliases = select.joins.flatMap joinAliases := by
    rw [blank, List.flatMap_map]
    exact List.flatMap_congr fun join _ => by
      rw [joinAliases, joinAliases, Join.blank, Expr.aliases_blank]
  have condition : select.blank.condition.toList.flatMap Expr.aliases =
      select.condition.toList.flatMap Expr.aliases := by
    rw [blank]
    cases select.condition with
    | none => rfl
    | some condition => simp [condition.aliases_blank]
  rw [usedAliases, usedAliases, joins, condition]
  rfl

theorem faults_blank (select : Select) : select.blank.faults = select.faults := by
  have conditions : select.blank.conditions = select.conditions.map Expr.blank := by
    simp [Select.conditions, blank, Join.blank, Option.toList_map]
  have operands : select.blank.conditions.flatMap Expr.faults =
      select.conditions.flatMap Expr.faults := by
    rw [conditions, List.flatMap_map]
    exact List.flatMap_congr fun condition _ => condition.faults_blank
  rw [faults, faults, scopeFaults, scopeFaults, usedAliases_blank, operands]
  rfl

theorem unbound_written_blank (select : Select) :
    select.blank.written.map unbound = select.written.map unbound := by
  have joins : (select.blank.joins.flatMap Join.written).map unbound =
      (select.joins.flatMap Join.written).map unbound := by
    simp [blank, List.flatMap_map, List.map_flatMap, Join.written, Join.blank,
      Expr.unbound_written_blank]
  have rows (keyword : String) (rows : Option Int64) :
      (writtenBound keyword (rows.map fun _ => 0)).map unbound =
        (writtenBound keyword rows).map unbound := by
    cases rows <;> rfl
  have condition := unbound_writtenWhere_blank select.condition
  simp only [written, List.map_append, joins]
  simp only [blank, condition, rows]
  rfl

end Select

theorem Delete.faults_blank (delete : Delete) : delete.blank.faults = delete.faults := by
  rw [faults, faults, blank, Option.toList_map, List.flatMap_map]
  exact List.flatMap_congr fun condition _ => condition.faults_blank

theorem Delete.unbound_written_blank (delete : Delete) :
    delete.blank.written.map unbound = delete.written.map unbound := by
  simp [written, blank, unbound_writtenWhere_blank]

/-- Statements with the same faults and, values aside, the same fragments render alike. -/
theorem Statement.sameButValues {dialect : Dialect} {first second : Statement}
    {values values' : List Value} (faults : first.faults = second.faults)
    (fragments : (first.written dialect).map unbound = (second.written dialect).map unbound)
    (binds : parametersOfAll (first.written dialect) = values.map (·.stored))
    (binds' : parametersOfAll (second.written dialect) = values'.map (·.stored)) :
    SameButValues values values' (first.compile dialect) (second.compile dialect) := by
  rw [compile_eq_answer, compile_eq_answer, faults]
  cases second.faults with
  | cons error others => exact rfl
  | nil =>
      have length (fragments : List Fragment) :
          (parametersOfAll (fragments.map unbound)).length =
            (parametersOfAll fragments).length := by
        induction fragments with
        | nil => rfl
        | cons first rest ih => cases first <;> simp [Fragment.unbound, ih]
      refine ⟨Compiled.text_eq_of_unbound fragments, ?_, ?_, ?_⟩
      · show (parametersOfAll _).length = _
        rw [binds, List.length_map]
      · show (parametersOfAll _).length = _
        rw [← length, ← fragments, length, binds, List.length_map]
      · intro index agree
        show (parametersOfAll _)[index]? = (parametersOfAll _)[index]?
        rw [binds, binds', List.getElem?_map, List.getElem?_map, agree]

/-! ## Insertions -/

namespace Insert

/-- What is seen of a row when its values are hidden. -/
def blankRow (columns : Nat) : List Fragment :=
  [word "("] ++ separated "," (List.replicate columns [Fragment.bound .null]) ++ [word ")"]

/-- What is seen of the columns and the values when the values are hidden. -/
def blankValues (table : Table) (records : Nat) : List Fragment :=
  if table.insertShape.isEmpty then [word " DEFAULT VALUES"]
  else
    [word " ("] ++
      separated "," (table.insertShape.map fun column => [identifier column.sqlName]) ++
      [word ") VALUES "] ++
      separated "," (List.replicate records (blankRow table.insertShape.length))

theorem unbound_writtenRow (shape : List Column) (row : Nat) (record : Record) :
    (writtenRow (rowCells shape row record)).map unbound = blankRow shape.length := by
  have cells : (((rowCells shape row record).map fun cell => [Fragment.bound cell.stored]).map
      (·.map unbound)) = List.replicate shape.length [Fragment.bound .null] := by
    simp only [rowCells, List.map_map, Function.comp_def, List.map_cons, List.map_nil, unbound,
      List.map_const']
  simp only [writtenRow, List.map_append, map_separated, cells]
  rfl

theorem unbound_writtenRows (shape : List Column) (records : List Record) :
    (records.zipIdx.map fun (record, row) => writtenRow (rowCells shape row record)).map
        (·.map unbound) =
      List.replicate records.length (blankRow shape.length) := by
  simp only [List.map_map, Function.comp_def, unbound_writtenRow, List.map_const',
    List.length_zipIdx]

theorem unbound_writtenValues (insert : Insert) :
    insert.writtenValues.map unbound = blankValues insert.table insert.records.length := by
  have names : ((insert.table.insertShape.map fun column => [identifier column.sqlName]).map
      (·.map unbound)) =
        insert.table.insertShape.map fun column => [identifier column.sqlName] := by
    rw [List.map_map]
    rfl
  rw [writtenValues, blankValues]
  split
  · rfl
  · simp only [List.map_append, map_separated, unbound_writtenRows, names]
    rfl

/-- Values aside, an insert writes what its table, the number of its records and its outputs
say. -/
theorem unbound_written (dialect : Dialect) (insert : Insert) :
    (insert.written dialect).map unbound =
      [word "INSERT INTO ", identifier insert.table.name] ++
        blankValues insert.table insert.records.length ++
        returningFragments dialect insert.returnShape ++ [word ";"] := by
  have returning : (returningFragments dialect insert.returnShape).map unbound =
      returningFragments dialect insert.returnShape := by
    rw [returningFragments]
    split
    · rw [List.map_cons, map_separated, List.map_map]
      rfl
    · rfl
  simp only [written, List.map_append, unbound_writtenValues, returning]
  rfl

/-- A rendered insert has written its fragments. -/
theorem eq_ofFragments {dialect : Dialect} {insert : Insert} {compiled : Compiled}
    (rendered : (Statement.insert insert).compile dialect = .ok compiled) :
    compiled = .ofFragments dialect (insert.written dialect) := by
  rw [Statement.compile_eq_answer, answer_eq_ok_iff] at rendered
  exact rendered.2.symm

/-- The parameter of a cell is what its column stores of it. -/
theorem getElem?_parameters {dialect : Dialect} {insert : Insert} {compiled : Compiled}
    {row index : Nat} {record : Record} {column : Column}
    (rendered : (Statement.insert insert).compile dialect = .ok compiled)
    (inRecords : insert.records[row]? = some record)
    (inShape : insert.table.insertShape[index]? = some column) :
    compiled.parameters[row * insert.table.insertShape.length + index]? =
      some (Codec.stored column.type ((record.get? column.name).getD .null)) := by
  rw [eq_ofFragments rendered]
  show (parametersOfAll _)[_]? = _
  rw [parametersOfAll_written, List.getElem?_map, getElem?_cells inRecords inShape]
  rfl

end Insert

/-- **Bound values do not reach the text.** Queries and deletions that differ in bound values
only fail alike, or have the same text and parameters that differ in the same places. Insertions
into one table that return the same and have as many records have the same text, and a parameter
that depends on its own cell only. -/
theorem Statement.text_without_values (dialect : Dialect) :
    (∀ first second : Select, first.blank = second.blank →
      SameButValues first.payload second.payload ((Statement.select first).compile dialect)
        ((Statement.select second).compile dialect)) ∧
      (∀ first second : Delete, first.blank = second.blank →
        SameButValues first.payload second.payload ((Statement.delete first).compile dialect)
          ((Statement.delete second).compile dialect)) ∧
      ∀ (first second : Insert) (one other : Compiled),
        first.table = second.table → first.records.length = second.records.length →
          first.returnShape = second.returnShape →
            (Statement.insert first).compile dialect = .ok one →
              (Statement.insert second).compile dialect = .ok other →
                one.text = other.text ∧
                  ∀ row index record record' column, first.records[row]? = some record →
                    second.records[row]? = some record' →
                      first.table.insertShape[index]? = some column →
                        record.get? column.name = record'.get? column.name →
                          one.parameters[row * first.table.insertShape.length + index]? =
                            other.parameters[row * first.table.insertShape.length + index]? := by
  refine ⟨?_, ?_, ?_⟩
  · intro first second same
    refine sameButValues ?_ ?_ first.parametersOfAll_written second.parametersOfAll_written
    · show first.faults = second.faults
      rw [← first.faults_blank, same, second.faults_blank]
    · show first.written.map unbound = second.written.map unbound
      rw [← first.unbound_written_blank, same, second.unbound_written_blank]
  · intro first second same
    refine sameButValues ?_ ?_ first.parametersOfAll_written second.parametersOfAll_written
    · show first.faults = second.faults
      rw [← first.faults_blank, same, second.faults_blank]
    · show first.written.map unbound = second.written.map unbound
      rw [← first.unbound_written_blank, same, second.unbound_written_blank]
  · intro first second one other table records outputs rendered rendered'
    constructor
    · rw [Insert.eq_ofFragments rendered, Insert.eq_ofFragments rendered']
      apply Compiled.text_eq_of_unbound
      rw [Insert.unbound_written, Insert.unbound_written, table, records, outputs]
    · intro row index record record' column inFirst inSecond inShape sameCell
      have atFirst := Insert.getElem?_parameters rendered inFirst inShape
      rw [table] at inShape
      have atSecond := Insert.getElem?_parameters rendered' inSecond inShape
      rw [atFirst, table, atSecond, sameCell]

/-- The query of readings with other values at three of its six places. -/
def Select.ofOtherReadings : Select :=
  { Select.ofReadings with
    condition := some (.all [
      .ofList (.column .reading) .isIn [.float (.zero false), .null, .text "'; --"],
      .not (.binary (.literal (.bool true)) .eq (.literal (.integer 3)))])
    limit := some (-1) }

/-- The deletion of the readings at a level. -/
def Delete.atLevel (level : Value) : Delete :=
  ⟨"readings", "r", some (.binary (.column .reading) .eq (.literal level))⟩

/-- The insertion of two readings, the first without a level and the second with one. -/
def Insert.ofReadings (level : Value) (others : Record) : Insert :=
  ⟨⟨"readings", [.reading]⟩, [others, Dictionary.empty.insert "level" level], []⟩

/-- Queries, deletions and insertions in which the values differ have the same text. -/
theorem Statement.text_without_readings :
    SameButValues Select.ofReadings.payload Select.ofOtherReadings.payload
        ((Statement.select .ofReadings).compile .sqlite)
        ((Statement.select .ofOtherReadings).compile .sqlite) ∧
      SameButValues [.integer 1] [.text "a"]
        ((Statement.delete (.atLevel (.integer 1))).compile .sqlite)
        ((Statement.delete (.atLevel (.text "a"))).compile .sqlite) ∧
      ∃ one other,
        (Statement.insert (.ofReadings .null .empty)).compile .sqlite = .ok one ∧
          (Statement.insert (.ofReadings (.integer 2)
            (Dictionary.empty.insert "x" .null))).compile .sqlite = .ok other ∧
          one.text = other.text ∧ one.parameters[0]? = other.parameters[0]? := by
  obtain ⟨queries, deletions, insertions⟩ := text_without_values .sqlite
  refine ⟨queries .ofReadings .ofOtherReadings rfl,
    deletions (.atLevel (.integer 1)) (.atLevel (.text "a")) rfl, _, _, rfl, rfl, ?_⟩
  have same := insertions (.ofReadings .null .empty)
    (.ofReadings (.integer 2) (Dictionary.empty.insert "x" .null)) _ _ rfl rfl rfl rfl rfl
  exact ⟨same.1, same.2 0 0 _ _ _ rfl rfl rfl rfl⟩

end TypedSql
