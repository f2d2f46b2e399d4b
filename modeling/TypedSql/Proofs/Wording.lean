import TypedSql.Proofs.Faults

/-!
# The words of rendered statements

The fixed words of a statement hold letters, digits, blanks and a few marks, and no quote, no
question mark and no semicolon (`Fragment.isPlain`). Names and values therefore enter a text
only as identifiers, literals and placeholders, which are fragments of their own.

The main statement, `Statement.isClosed_written`, says so of every statement in a dialect with
plain type names and key words: its fragments are plain up to the last one, which closes the
statement with a semicolon.
-/

set_option autoImplicit false

namespace TypedSql

open Fragment

/-! ## Plain words -/

/-- Whether a character may stand in the words of a statement before its closing semicolon. -/
def isPlainChar (c : Char) : Bool :=
  c.isAlphanum || [' ', '(', ')', ',', '.', '=', '<', '>'].contains c

/-- Whether a text holds plain characters only. -/
def isPlainText (text : String) : Bool := text.toList.all isPlainChar

/-- Whether a fragment is a plain word, or no word at all. -/
def Fragment.isPlain : Fragment → Bool
  | word text => isPlainText text
  | _ => true

theorem isPlainText_append (first second : String) :
    isPlainText (first ++ second) = (isPlainText first && isPlainText second) := by
  simp [isPlainText]

theorem isDigit_of_mem_toString {n : Nat} {c : Char} (member : c ∈ (toString n).toList) :
    c.isDigit = true := by
  rw [Nat.toString_eq_repr, Nat.repr, String.toList_ofList] at member
  exact Nat.isDigit_of_mem_toDigits (by decide) (by decide) member

/-- The decimal digits of a number are plain. -/
theorem isPlainText_toString (n : Nat) : isPlainText (toString n) = true := by
  rw [isPlainText, List.all_eq_true]
  intro c member
  simp [isPlainChar, Char.isAlphanum, isDigit_of_mem_toString member]

/-! ## Lists of fragments -/

/-- Whether all of a list of fragments are plain. -/
def allPlain (fragments : List Fragment) : Bool := fragments.all isPlain

@[simp] theorem allPlain_nil : allPlain [] = true := rfl

@[simp] theorem allPlain_cons (first : Fragment) (rest : List Fragment) :
    allPlain (first :: rest) = (first.isPlain && allPlain rest) := rfl

@[simp] theorem allPlain_append (first second : List Fragment) :
    allPlain (first ++ second) = (allPlain first && allPlain second) :=
  List.all_append

@[simp] theorem isPlain_identifier (name : String) : (identifier name).isPlain = true := rfl

@[simp] theorem isPlain_inline (value : Stored) : (Fragment.inline value).isPlain = true := rfl

@[simp] theorem isPlain_bound (value : Stored) : (bound value).isPlain = true := rfl

theorem allPlain_separated {separator : String} (plain : isPlainText separator = true)
    {parts : List (List Fragment)} (each : ∀ part ∈ parts, allPlain part = true) :
    allPlain (separated separator parts) = true := by
  cases parts with
  | nil => rfl
  | cons first rest =>
      obtain ⟨firstPlain, restPlain⟩ := List.forall_mem_cons.mp each
      rw [separated_cons, allPlain_append, firstPlain, Bool.true_and, allPlain, List.all_flatMap,
        List.all_eq_true]
      intro part member
      exact Bool.and_eq_true_iff.mpr ⟨plain, restPlain part member⟩

theorem allPlain_separated_map {α : Type} {separator : String}
    (plain : isPlainText separator = true) {part : α → List Fragment}
    (each : ∀ element, allPlain (part element) = true) (elements : List α) :
    allPlain (separated separator (elements.map part)) = true := by
  refine allPlain_separated plain fun fragments member => ?_
  obtain ⟨element, _, rfl⟩ := List.mem_map.mp member
  exact each element

theorem allPlain_wordIf {condition : Bool} {text : String} (plain : isPlainText text = true) :
    allPlain (wordIf condition text) = true := by
  cases condition <;> simp [wordIf, Fragment.isPlain, plain]

/-! ## Expressions -/

theorem Value.isPlain_written (value : Value) : value.written.isPlain = true := by
  cases value with
  | bool truth => cases truth <;> rfl
  | _ => rfl

theorem isPlainText_infixed (operator : Operator) : isPlainText operator.infixed = true := by
  cases operator <;> rfl

theorem isPlainText_symbol (keyword : TruthKeyword) : isPlainText keyword.symbol = true := by
  cases keyword <;> rfl

theorem allPlain_column (column : Column) : allPlain column.fragments = true := rfl

theorem allPlain_writtenBinary (operator : Operator) {before after : List Fragment}
    (left : allPlain before = true) (right : allPlain after = true) :
    allPlain (Expr.writtenBinary operator before after) = true := by
  rw [Expr.writtenBinary]
  split <;>
    simp [Fragment.isPlain, isPlainText_append, isPlainText_infixed, left, right] <;> decide

mutual

/-- An expression writes plain words only. -/
theorem Expr.allPlain_written : ∀ e : Expr, allPlain e.written = true
  | .column reference => allPlain_column reference
  | .literal value => by simp [Expr.written, Value.isPlain_written]
  | .binary left operator right =>
      allPlain_writtenBinary operator left.allPlain_written right.allPlain_written
  | .ofList left operator values => by
      have members : allPlain (separated "," (values.map fun value => [value.written])) :=
        allPlain_separated_map rfl (fun value => by simp [Value.isPlain_written]) values
      simp [Expr.written, Fragment.isPlain, isPlainText_append, isPlainText_infixed,
        left.allPlain_written, members]
      decide
  | .ofTruth left operator keyword => by
      simp [Expr.written, Fragment.isPlain, isPlainText_append, isPlainText_infixed,
        isPlainText_symbol, left.allPlain_written]
      decide
  | .junction kind [] => by cases kind <;> rfl
  | .junction kind (first :: rest) => by
      have separator : isPlainText (" " ++ kind.symbol ++ " ") = true := by cases kind <;> rfl
      have members := allPlain_separated separator (Expr.allPlain_writtenOfAll (first :: rest))
      simp [Expr.written, Fragment.isPlain, members]
      decide
  | .not inner => by
      simp [Expr.written, Fragment.isPlain, inner.allPlain_written]
      decide

theorem Expr.allPlain_writtenOfAll : ∀ members : List Expr,
    ∀ part ∈ Expr.writtenOfAll members, allPlain part = true
  | [] => by simp [Expr.writtenOfAll]
  | first :: rest =>
      List.forall_mem_cons.mpr ⟨first.allPlain_written, Expr.allPlain_writtenOfAll rest⟩

end

/-! ## Statements -/

/-- A dialect whose type names and key words are plain. -/
structure Dialect.IsPlain (dialect : Dialect) : Prop where
  typeName : ∀ type size, isPlainText (dialect.typeName type size) = true
  primaryKey : isPlainText dialect.primaryKey = true
  autoincrement : isPlainText dialect.autoincrement = true

theorem Dialect.sqlite_isPlain : Dialect.sqlite.IsPlain where
  typeName type _ := by
    show isPlainText (Dialect.sqliteType type) = true
    cases type <;> decide
  primaryKey := rfl
  autoincrement := rfl

theorem Dialect.generic_isPlain : Dialect.generic.IsPlain where
  typeName type size := by
    show isPlainText (Dialect.genericType size type) = true
    cases type <;>
      simp only [Dialect.genericType, isPlainText_append, isPlainText_toString] <;> decide
  primaryKey := rfl
  autoincrement := rfl

/-- Plain fragments up to the last one, which closes the statement with a semicolon. -/
def Fragment.IsClosed (fragments : List Fragment) : Prop :=
  ∃ body closing, fragments = body ++ [word closing] ∧ (closing = ";" ∨ closing = ");") ∧
    allPlain body = true

section Statements

variable {dialect : Dialect}

theorem Column.allPlain_written (plain : dialect.IsPlain) (column : Column) :
    allPlain (column.written dialect) = true := by
  have default : allPlain (writtenDefault column.storedDefault?) = true := by
    cases column.storedDefault? <;> rfl
  have space (text : String) (textPlain : isPlainText text = true) :
      isPlainText (" " ++ text) = true := by
    rw [isPlainText_append, textPlain]
    rfl
  have keys : allPlain (column.keyFragments dialect) = true := by
    simp only [Column.keyFragments, allPlain_append, Bool.and_eq_true]
    exact ⟨⟨⟨allPlain_wordIf (space _ plain.primaryKey),
      allPlain_wordIf (space _ plain.autoincrement)⟩, allPlain_wordIf rfl⟩, allPlain_wordIf rfl⟩
  simp [Column.written, Fragment.isPlain, space _ (plain.typeName _ _), keys, default]

theorem CreateTable.isClosed_written (plain : dialect.IsPlain) (create : CreateTable) :
    IsClosed (create.written dialect) := by
  refine ⟨_, ");", rfl, .inr rfl, ?_⟩
  have columns : allPlain (separated ", " (create.table.columns.map (·.written dialect))) = true :=
    allPlain_separated_map rfl (fun column => column.allPlain_written plain) _
  have unlogged : allPlain (wordIf create.unlogged "UNLOGGED ") = true := allPlain_wordIf rfl
  have conditional : allPlain (wordIf create.ifNotExists "IF NOT EXISTS ") = true :=
    allPlain_wordIf rfl
  simp [Fragment.isPlain, unlogged, conditional, columns]
  decide

namespace Insert

theorem allPlain_writtenRow (cells : List Cell) : allPlain (writtenRow cells) = true := by
  have values :
      allPlain (separated "," (cells.map fun cell => [Fragment.bound cell.stored])) = true :=
    allPlain_separated_map rfl (fun _ => rfl) cells
  simp [writtenRow, Fragment.isPlain, values]
  decide

theorem allPlain_writtenValues (insert : Insert) : allPlain insert.writtenValues = true := by
  rw [writtenValues]
  split
  · rfl
  · have names : allPlain (separated ","
        (insert.table.insertShape.map fun column => [identifier column.sqlName])) = true :=
      allPlain_separated_map rfl (fun _ => rfl) _
    have rows : allPlain (separated "," (insert.records.zipIdx.map fun row =>
        writtenRow (rowCells insert.table.insertShape row.2 row.1))) = true :=
      allPlain_separated_map rfl (fun _ => allPlain_writtenRow _) _
    simp [Fragment.isPlain, names, rows]
    decide

theorem allPlain_returningFragments (outputs : List Output) :
    allPlain (returningFragments dialect outputs) = true := by
  rw [returningFragments]
  split
  · have each : allPlain (separated ", " (outputs.map fun output =>
        [identifier output.column.sqlName, word " AS ",
          identifier (snakeCase output.name)])) = true :=
      allPlain_separated_map rfl (fun _ => rfl) outputs
    simp [Fragment.isPlain, each]
    decide
  · rfl

theorem isClosed_written (insert : Insert) : IsClosed (insert.written dialect) := by
  refine ⟨_, ";", rfl, .inl rfl, ?_⟩
  simp [Fragment.isPlain, insert.allPlain_writtenValues, allPlain_returningFragments]
  decide

end Insert

theorem allPlain_writtenWhere (condition : Option Expr) :
    allPlain (writtenWhere condition) = true := by
  cases condition with
  | none => rfl
  | some condition =>
      simp [writtenWhere, Fragment.isPlain, condition.allPlain_written]
      decide

theorem Join.allPlain_written (join : Join) : allPlain join.written = true := by
  have kind : isPlainText (" " ++ join.kind.symbol ++ " ") = true := by
    cases join.kind <;> rfl
  simp [Join.written, Fragment.isPlain, kind, join.on.allPlain_written]
  decide

namespace Select

theorem allPlain_projectionFragments (outputs : List Output) :
    allPlain (projectionFragments outputs) = true :=
  allPlain_separated_map rfl (fun _ => rfl) outputs

theorem allPlain_orderFragments (terms : List OrderTerm) :
    allPlain (orderFragments terms) = true := by
  rw [orderFragments]
  split
  · rfl
  · have each : allPlain (separated ", " (terms.map fun term =>
        term.column.fragments ++ [word (" " ++ term.direction.symbol)])) = true := by
      refine allPlain_separated_map rfl (fun term => ?_) terms
      cases term.direction <;> rfl
    simp [Fragment.isPlain, each]
    decide

theorem allPlain_writtenBound {keyword : String} (plain : isPlainText keyword = true)
    (rows : Option Int64) : allPlain (writtenBound keyword rows) = true := by
  cases rows <;> simp [writtenBound, Fragment.isPlain, plain]

theorem isClosed_written (select : Select) : IsClosed select.written := by
  refine ⟨_, ";", rfl, .inl rfl, ?_⟩
  have joins : allPlain (select.joins.flatMap Join.written) = true :=
    List.all_flatMap.trans (List.all_eq_true.mpr fun join _ => join.allPlain_written)
  have limit : allPlain (writtenBound " LIMIT " select.limit) = true :=
    allPlain_writtenBound rfl _
  have offset : allPlain (writtenBound " OFFSET " select.offset) = true :=
    allPlain_writtenBound rfl _
  simp [Fragment.isPlain, joins, allPlain_writtenWhere, allPlain_projectionFragments,
    allPlain_orderFragments, limit, offset]
  decide

end Select

theorem Delete.isClosed_written (delete : Delete) : IsClosed delete.written := by
  refine ⟨_, ";", rfl, .inl rfl, ?_⟩
  simp [Fragment.isPlain, allPlain_writtenWhere]
  decide

/-- **A statement is plain up to its closing semicolon.** -/
theorem Statement.isClosed_written (plain : dialect.IsPlain) (statement : Statement) :
    IsClosed (statement.written dialect) := by
  cases statement with
  | createTable create => exact create.isClosed_written plain
  | insert insert => exact insert.isClosed_written
  | select select => exact select.isClosed_written
  | delete delete => exact delete.isClosed_written

/-- A rendered statement is closed. -/
theorem Statement.fragments_closed (plain : dialect.IsPlain) {statement : Statement}
    {fragments : List Fragment} (rendered : statement.fragments dialect = .ok fragments) :
    IsClosed fragments := by
  rw [fragments_eq_answer, Outcome.answer_eq_ok_iff] at rendered
  exact rendered.2 ▸ statement.isClosed_written plain

end Statements

end TypedSql
