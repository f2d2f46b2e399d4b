import TypedSql.Proofs.Faults
import TypedSql.Proofs.Outline

/-!
# Words between names and values

In the fragments of a statement a word stands behind every name and every value, so that no two
quoted texts touch (`Statement.parted_written`). A list of fragments with this property may be
put behind another one that has it if it starts with a word (`Fragment.Follows`). The optional
clauses of a statement are such lists, empty ones included.
-/

set_option autoImplicit false

namespace TypedSql

open Fragment

/-! ## Lists of fragments -/

namespace Fragment

section

variable (rest : List Fragment)

@[simp] theorem parted_nil : parted [] = true := rfl

@[simp] theorem parted_word (text : String) : parted (word text :: rest) = parted rest := rfl

@[simp] theorem parted_identifier (name : String) :
    parted (identifier name :: rest) = (startsWithWord rest && parted rest) := rfl

@[simp] theorem parted_inline (value : Stored) :
    parted (inline value :: rest) = (startsWithWord rest && parted rest) := rfl

@[simp] theorem parted_bound (value : Stored) :
    parted (bound value :: rest) = (startsWithWord rest && parted rest) := rfl

@[simp] theorem startsWithWord_nil : startsWithWord [] = true := rfl

@[simp] theorem startsWithWord_word (text : String) :
    startsWithWord (word text :: rest) = decide (text ≠ "") := rfl

end

theorem parted_append_word {text : String} (spelled : text ≠ "") (first rest : List Fragment) :
    parted (first ++ word text :: rest) = (parted first && parted rest) := by
  induction first with
  | nil => simp
  | cons fragment others ih =>
      have starts : startsWithWord (others ++ word text :: rest) = startsWithWord others := by
        cases others with
        | nil => simp [spelled]
        | cons second _ => cases second <;> rfl
      cases fragment <;> simp [ih, starts, Bool.and_assoc]

/-- Fragments that may stand behind a name or a value. -/
def Follows (fragments : List Fragment) : Prop :=
  startsWithWord fragments = true ∧ parted fragments = true

theorem Follows.nil : Follows [] := ⟨rfl, rfl⟩

theorem follows_cons {text : String} (spelled : text ≠ "") {rest : List Fragment}
    (isParted : parted rest = true) : Follows (word text :: rest) :=
  ⟨by simp [spelled], isParted⟩

theorem parted_append {first second : List Fragment} (one : parted first = true)
    (other : Follows second) : parted (first ++ second) = true := by
  cases second with
  | nil => simpa using one
  | cons fragment rest =>
      cases fragment with
      | word text =>
          have spelled : text ≠ "" := by simpa using other.1
          rw [parted_append_word spelled, one, Bool.true_and]
          exact other.2
      | identifier _ => cases other.1
      | inline _ => cases other.1
      | bound _ => cases other.1

theorem Follows.append {first second : List Fragment} (one : Follows first)
    (other : Follows second) : Follows (first ++ second) := by
  refine ⟨?_, parted_append one.2 other⟩
  cases first with
  | nil => exact other.1
  | cons fragment _ => cases fragment <;> exact one.1

theorem Follows.flatMap {α : Type} {parts : List α} {written : α → List Fragment}
    (each : ∀ part ∈ parts, Follows (written part)) : Follows (parts.flatMap written) := by
  induction parts with
  | nil => exact .nil
  | cons first rest ih =>
      obtain ⟨one, others⟩ := List.forall_mem_cons.mp each
      exact one.append (ih others)

theorem follows_wordIf {condition : Bool} {text : String} (spelled : text ≠ "") :
    Follows (wordIf condition text) := by
  cases condition with
  | false => exact .nil
  | true => exact follows_cons spelled rfl

theorem parted_separated {separator : String} (spelled : separator ≠ "")
    {parts : List (List Fragment)} (each : ∀ part ∈ parts, parted part = true) :
    parted (separated separator parts) = true := by
  cases parts with
  | nil => rfl
  | cons first rest =>
      obtain ⟨firstParted, restParted⟩ := List.forall_mem_cons.mp each
      rw [separated_cons]
      exact parted_append firstParted
        (.flatMap fun part member => follows_cons spelled (restParted part member))

theorem parted_separated_map {α : Type} {separator : String} (spelled : separator ≠ "")
    {part : α → List Fragment} (each : ∀ element, parted (part element) = true)
    (elements : List α) : parted (separated separator (elements.map part)) = true := by
  refine parted_separated spelled fun fragments member => ?_
  obtain ⟨element, _, rfl⟩ := List.mem_map.mp member
  exact each element

end Fragment

/-! ## Expressions -/

theorem Operator.infixed_ne_empty (operator : Operator) : operator.infixed ≠ "" := by
  cases operator <;> decide

theorem Value.parted_written (value : Value) : parted [value.written] = true := by
  cases value with
  | bool truth => cases truth <;> rfl
  | _ => rfl

namespace Expr

theorem parted_writtenBinary (operator : Operator) {before after : List Fragment}
    (left : parted before = true) (right : parted after = true) :
    parted (writtenBinary operator before after) = true := by
  rw [writtenBinary]
  split <;>
    simp [parted_append_word, String.append_eq_empty_iff, operator.infixed_ne_empty, left, right]

mutual

/-- In an expression a word stands behind every name and every value. -/
theorem parted_written : ∀ e : Expr, parted e.written = true
  | column reference => rfl
  | literal value => value.parted_written
  | binary left operator right =>
      parted_writtenBinary operator (parted_written left) (parted_written right)
  | ofList left operator values => by
      have members : parted (separated "," (values.map fun value => [value.written])) :=
        parted_separated_map (by decide) Value.parted_written values
      simp [written, parted_append_word, String.append_eq_empty_iff, operator.infixed_ne_empty,
        parted_written left, members]
  | ofTruth left operator keyword => by
      simp [written, parted_append_word, String.append_eq_empty_iff, operator.infixed_ne_empty,
        parted_written left]
  | junction kind [] => rfl
  | junction kind (first :: rest) => by
      have separator : " " ++ kind.symbol ++ " " ≠ "" := by simp [String.append_eq_empty_iff]
      have members := parted_separated separator (parted_writtenOfAll (first :: rest))
      simp [written, parted_append_word, members]
  | not inner => by simp [written, parted_append_word, parted_written inner]

theorem parted_writtenOfAll : ∀ members : List Expr,
    ∀ part ∈ writtenOfAll members, parted part = true
  | [] => by simp [writtenOfAll]
  | first :: rest => List.forall_mem_cons.mpr ⟨parted_written first, parted_writtenOfAll rest⟩

end

end Expr

/-! ## Statements -/

theorem follows_writtenWhere (condition : Option Expr) : Follows (writtenWhere condition) := by
  cases condition with
  | none => exact .nil
  | some condition => exact follows_cons (by decide) condition.parted_written

theorem Column.parted_written (dialect : Dialect) (column : Column) :
    parted (column.written dialect) = true := by
  have blank (text : String) : " " ++ text ≠ "" := by simp [String.append_eq_empty_iff]
  have keys : Follows (column.keyFragments dialect) :=
    ((((follows_wordIf (blank _)).append (follows_wordIf (blank _))).append
      (follows_wordIf (by decide))).append (follows_wordIf (by decide)))
  have default : Follows (writtenDefault column.storedDefault?) := by
    cases column.storedDefault? with
    | none => exact .nil
    | some stored => exact follows_cons (by decide) rfl
  rw [written, List.append_assoc]
  exact parted_append (by simp [blank]) (keys.append default)

theorem CreateTable.parted_written (dialect : Dialect) (create : CreateTable) :
    parted (create.written dialect) = true := by
  have columns : parted (separated ", " (create.table.columns.map (·.written dialect))) = true :=
    parted_separated_map (by decide) (fun column => column.parted_written dialect) _
  rw [written]
  cases create.unlogged <;> cases create.ifNotExists <;>
    simp [wordIf, parted_append_word, columns]

namespace Insert

theorem parted_writtenRow (cells : List Cell) : parted (writtenRow cells) = true := by
  have values :
      parted (separated "," (cells.map fun cell => [Fragment.bound cell.stored])) = true :=
    parted_separated_map (by decide) (fun _ => rfl) cells
  simp [writtenRow, parted_append_word, values]

theorem follows_writtenValues (insert : Insert) : Follows insert.writtenValues := by
  rw [writtenValues]
  split
  · exact follows_cons (by decide) rfl
  · have names : parted (separated ","
        (insert.table.insertShape.map fun column => [identifier column.sqlName])) = true :=
      parted_separated_map (by decide) (fun _ => rfl) _
    have rows : parted (separated "," (insert.records.zipIdx.map fun row =>
        writtenRow (rowCells insert.table.insertShape row.2 row.1))) = true :=
      parted_separated_map (by decide) (fun _ => parted_writtenRow _) _
    refine ⟨by simp, ?_⟩
    simp [parted_append_word, names, rows]

theorem follows_returningFragments (dialect : Dialect) (outputs : List Output) :
    Follows (returningFragments dialect outputs) := by
  rw [returningFragments]
  split
  · exact follows_cons (by decide) (parted_separated_map (by decide) (fun _ => rfl) outputs)
  · exact .nil

theorem parted_written (dialect : Dialect) (insert : Insert) :
    parted (insert.written dialect) = true := by
  rw [written, List.append_assoc, List.append_assoc]
  exact parted_append rfl (insert.follows_writtenValues.append
    ((follows_returningFragments dialect _).append (follows_cons (by decide) rfl)))

end Insert

/-- A joined table may stand behind a name. -/
theorem Join.follows_written (join : Join) : Follows join.written := by
  refine ⟨by simp [written, String.append_eq_empty_iff], ?_⟩
  simp [written, join.on.parted_written]

namespace Select

theorem parted_projectionFragments (outputs : List Output) :
    parted (projectionFragments outputs) = true :=
  parted_separated_map (by decide) (fun _ => rfl) outputs

theorem follows_orderFragments (terms : List OrderTerm) : Follows (orderFragments terms) := by
  rw [orderFragments]
  split
  · exact .nil
  · refine follows_cons (by decide) (parted_separated_map (by decide) (fun term => ?_) terms)
    cases term.direction <;> rfl

theorem follows_writtenBound {keyword : String} (spelled : keyword ≠ "") (rows : Option Int64) :
    Follows (writtenBound keyword rows) := by
  cases rows with
  | none => exact .nil
  | some rows => exact follows_cons spelled rfl

theorem parted_written (select : Select) : parted select.written = true := by
  have source : parted ([word "SELECT "] ++ projectionFragments select.projection ++
      [word " FROM ", identifier select.sourceTable, word " AS ", identifier select.source]) =
        true := by
    simp [parted_append_word, parted_projectionFragments]
  have joins : Follows (select.joins.flatMap Join.written) :=
    .flatMap fun join _ => join.follows_written
  have limit : Follows (writtenBound " LIMIT " select.limit) :=
    follows_writtenBound (by decide) _
  have offset : Follows (writtenBound " OFFSET " select.offset) :=
    follows_writtenBound (by decide) _
  have condition := follows_writtenWhere select.condition
  have order := follows_orderFragments select.order
  have ordered := parted_append (parted_append (parted_append source joins) condition) order
  exact parted_append (parted_append (parted_append ordered limit) offset)
    (follows_cons (by decide) rfl)

end Select

theorem Delete.parted_written (delete : Delete) : parted delete.written = true := by
  exact parted_append (parted_append rfl (follows_writtenWhere _)) (follows_cons (by decide) rfl)

theorem Statement.parted_written (dialect : Dialect) (statement : Statement) :
    parted (statement.written dialect) = true := by
  cases statement with
  | createTable create => exact create.parted_written dialect
  | insert insert => exact insert.parted_written dialect
  | select select => exact select.parted_written
  | delete delete => exact delete.parted_written

end TypedSql
