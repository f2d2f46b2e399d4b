import TypedSql.Proofs.Reading
import TypedSql.Proofs.Shape

/-!
# Columns as they are written

A reference to a column is written as two names with a point between them. Here they are found
again in the parts of a text, knowing nothing of the statement that was rendered
(`Quoted.references`). What else is written gives none: a name that is not qualified is never
beside a point, and words are only read for the one character between two names.

The check of aliases does not look at texts. It collects the columns of an expression by a
recursion of its own, `Expr.columns`. The two find the same columns in the same order
(`Expr.references_written`), so no column is written that the check has not seen. For a query
this makes every qualifier in its text an alias of its scope. The main statement is
`references_are_columns`.

In fragments this holds for every dialect. In a text it needs the quotes of standard SQL, for
these are what the names are read between.
-/

set_option autoImplicit false

namespace TypedSql

open Fragment Outcome

/-- A qualified name. -/
structure Reference where
  qualifier : String
  name : String
deriving DecidableEq, Repr

/-- The reference to a column. -/
def Column.reference (column : Column) : Reference := ⟨column.owner, column.sqlName⟩

/-! ## References in a text -/

namespace Quoted

/-- The reference that parts of a text start with. -/
def reference? : List Part → Option Reference
  | .quoted first qualifier :: .outside c :: .quoted second name :: _ =>
      if first = '"' ∧ c = '.' ∧ second = '"' then
        some ⟨String.ofList qualifier, String.ofList name⟩
      else none
  | _ => none

/-- The references in a text, from left to right. -/
def references : List Part → List Reference
  | [] => []
  | part :: rest => (reference? (part :: rest)).toList ++ references rest

theorem references_map_outside (text : List Char) (rest : List Part) :
    references (text.map .outside ++ rest) = references rest := by
  induction text with
  | nil => rfl
  | cons c text ih => exact ih

/-- What comes after another character than a point does not complete a reference. -/
theorem reference?_append {c : Char} (noPoint : c ≠ '.') (part : Part)
    (parts behind : List Part) :
    reference? (part :: (parts ++ .outside c :: behind)) = reference? (part :: parts) := by
  cases part with
  | outside => rfl
  | quoted first qualifier =>
      rcases parts with _ | ⟨second, _ | ⟨third, rest⟩⟩
      · rcases behind with _ | ⟨next | next, _⟩
        · rfl
        · rfl
        · simp [reference?, noPoint]
      · cases second <;> rfl
      · cases second <;> cases third <;> rfl

/-- **No reference reaches over another character than a point.** -/
theorem references_append {c : Char} (noPoint : c ≠ '.') (parts behind : List Part) :
    references (parts ++ .outside c :: behind) = references parts ++ references behind := by
  induction parts with
  | nil => rfl
  | cons part rest ih =>
      rw [List.cons_append, references, references, reference?_append noPoint, ih,
        List.append_assoc]

end Quoted

/-! ## References in fragments -/

namespace Fragment

/-- The references that fragments write, from left to right. -/
def references (fragments : List Fragment) : List Reference :=
  Quoted.references (fragments.flatMap parts)

/-- Whether a text begins with another character than a point. -/
def isBreak (text : String) : Bool := text.toList.head?.any (· ≠ '.')

theorem references_word_cons (text : String) (rest : List Fragment) :
    references (word text :: rest) = references rest :=
  Quoted.references_map_outside text.toList _

/-- A word that begins with another character than a point stands between references. -/
theorem references_append_word {text : String} (breaks : isBreak text = true)
    (front rest : List Fragment) :
    references (front ++ word text :: rest) = references front ++ references rest := by
  obtain ⟨c, first, noPoint⟩ := (Option.any_eq_true ..).mp breaks
  obtain ⟨others, spelled⟩ := List.head?_eq_some_iff.mp first
  have split : parts (word text) = .outside c :: others.map .outside := by
    rw [parts, spelled, List.map_cons]
  rw [references, List.flatMap_append, List.flatMap_cons, split, List.cons_append,
    Quoted.references_append (by simpa using noPoint), Quoted.references_map_outside]
  rfl

theorem references_append_closing {text : String} (breaks : isBreak text = true)
    (front : List Fragment) : references (front ++ [word text]) = references front := by
  rw [references_append_word breaks]
  exact List.append_nil _

theorem references_append_between {text : String} (breaks : isBreak text = true)
    (front rest : List Fragment) :
    references (front ++ [word text] ++ rest) = references front ++ references rest := by
  rw [List.append_assoc]
  exact references_append_word breaks front rest

/-- Fragments that take no part in a reference with what stands before them. -/
def Detached (fragments : List Fragment) : Prop :=
  ∀ front, references (front ++ fragments) = references front ++ references fragments

theorem Detached.nil : Detached [] := by
  intro front
  rw [List.append_nil]
  exact (List.append_nil _).symm

theorem detached_cons {text : String} (breaks : isBreak text = true) (rest : List Fragment) :
    Detached (word text :: rest) := by
  intro front
  rw [references_append_word breaks, references_word_cons]

theorem Detached.append {first second : List Fragment} (one : Detached first)
    (other : Detached second) : Detached (first ++ second) := by
  intro front
  rw [← List.append_assoc, other, one, other, List.append_assoc]

theorem Detached.flatMap {α : Type} {written : α → List Fragment}
    (each : ∀ element, Detached (written element)) (elements : List α) :
    Detached (elements.flatMap written) := by
  induction elements with
  | nil => exact .nil
  | cons first rest ih => exact (each first).append ih

/-- The references of detached pieces are those of the pieces. -/
theorem references_flatMap {α : Type} {written : α → List Fragment}
    (each : ∀ element, Detached (written element)) (elements : List α) :
    references (elements.flatMap written) =
      elements.flatMap fun element => references (written element) := by
  induction elements with
  | nil => rfl
  | cons first rest ih =>
      rw [List.flatMap_cons, Detached.flatMap each rest, ih, List.flatMap_cons]

theorem references_separated {separator : String} (breaks : isBreak separator = true)
    (pieces : List (List Fragment)) :
    references (separated separator pieces) = pieces.flatMap references := by
  cases pieces with
  | nil => rfl
  | cons first rest =>
      have each (piece : List Fragment) : Detached (word separator :: piece) :=
        detached_cons breaks piece
      rw [separated_cons, Detached.flatMap each, references_flatMap each, List.flatMap_cons]
      simp only [references_word_cons]

theorem isBreak_blank (text : String) : isBreak (" " ++ text) = true := by
  simp [isBreak]

end Fragment

/-! ## Expressions -/

theorem Operator.isBreak_infixed_append (operator : Operator) (text : String) :
    isBreak (operator.infixed ++ text) = true := by
  rw [infixed, String.append_assoc, String.append_assoc]
  exact isBreak_blank _

theorem Operator.isBreak_infixed (operator : Operator) : isBreak operator.infixed = true := by
  simpa using operator.isBreak_infixed_append ""

theorem Junction.isBreak_separator (kind : Junction) :
    isBreak (" " ++ kind.symbol ++ " ") = true := by
  rw [String.append_assoc]
  exact isBreak_blank _

theorem Column.references_fragments (column : Column) :
    references column.fragments = [column.reference] := by
  simp [references, Column.fragments, parts, Quoted.references, Quoted.reference?, reference]

theorem Value.references_written (value : Value) : references [value.written] = [] := by
  cases value with
  | null => exact references_word_cons _ []
  | bool truth => cases truth <;> exact references_word_cons _ []
  | _ => rfl

namespace Expr

theorem references_writtenBinary (operator : Operator) (before after : List Fragment) :
    references (writtenBinary operator before after) = references before ++ references after := by
  rw [writtenBinary]
  split
  · rw [references_append_closing rfl, references_append_between (operator.isBreak_infixed_append _)]
    rfl
  · rw [references_append_closing rfl, references_append_between operator.isBreak_infixed]
    rfl

theorem references_values (values : List Value) :
    references (separated "," (values.map fun value => [value.written])) = [] := by
  rw [references_separated rfl, List.flatMap_map]
  simp [Value.references_written]

mutual

/-- **An expression writes the columns that are collected from it**, each of them once and in
the same order. -/
theorem references_written : ∀ e : Expr,
    references e.written = e.columns.map Column.reference
  | column reference => reference.references_fragments
  | literal value => value.references_written
  | binary left operator right => by
      rw [written, references_writtenBinary, references_written left, references_written right,
        columns, List.map_append]
  | ofList left operator values => by
      rw [written, references_append_closing rfl,
        references_append_between (operator.isBreak_infixed_append _), references_values,
        List.append_nil, columns, ← references_written left]
      rfl
  | ofTruth left operator keyword => by
      rw [written, references_append_word (operator.isBreak_infixed_append _), columns,
        ← references_written left]
      exact List.append_nil _
  | junction kind [] => references_word_cons _ []
  | junction kind (first :: rest) => by
      have members := references_separated kind.isBreak_separator (writtenOfAll (first :: rest))
      rw [references_writtenOfAll (first :: rest)] at members
      rw [written, if_neg (by simp), references_append_closing rfl, columns, ← members]
      rfl
  | not inner => by
      rw [written, references_append_closing rfl, columns, ← references_written inner]
      rfl

theorem references_writtenOfAll : ∀ members : List Expr,
    (writtenOfAll members).flatMap references =
      (columnsOfAll members).map Column.reference
  | [] => rfl
  | first :: rest => by
      rw [writtenOfAll, List.flatMap_cons, references_written first,
        references_writtenOfAll rest, columnsOfAll, List.map_append]

end

end Expr

/-! ## Clauses of a query -/

theorem references_writtenWhere (condition : Option Expr) :
    references (writtenWhere condition) =
      (condition.toList.flatMap Expr.columns).map Column.reference := by
  cases condition with
  | none => rfl
  | some condition =>
      rw [writtenWhere, references_word_cons, condition.references_written]
      simp

theorem detached_writtenWhere (condition : Option Expr) : Detached (writtenWhere condition) := by
  cases condition with
  | none => exact .nil
  | some condition => exact detached_cons rfl _

theorem Join.references_written (join : Join) :
    references join.written = join.on.columns.map Column.reference := by
  show references (word _ :: ([identifier join.declaredName] ++ word " AS " ::
    ([identifier join.aliasName] ++ word " ON " :: join.on.written))) = _
  rw [references_word_cons, references_append_word rfl, references_append_word rfl,
    join.on.references_written]
  rfl

theorem Join.detached_written (join : Join) : Detached join.written := by
  refine detached_cons ?_ _
  rw [String.append_assoc]
  exact isBreak_blank _

namespace Select

theorem references_projectionFragments (outputs : List Output) :
    references (projectionFragments outputs) = outputs.map (·.column.reference) := by
  rw [projectionFragments, references_separated rfl, List.flatMap_map]
  have each (output : Output) : references (output.column.fragments ++
      [word " AS ", identifier (snakeCase output.name)]) = [output.column.reference] := by
    rw [references_append_word rfl, Column.references_fragments]
    rfl
  simp only [each, List.map_eq_flatMap]

theorem references_orderFragments (terms : List OrderTerm) :
    references (orderFragments terms) = terms.map (·.column.reference) := by
  rw [orderFragments]
  split
  · rename_i none
    rw [List.isEmpty_iff.mp none]
    rfl
  · rw [references_word_cons, references_separated rfl, List.flatMap_map]
    have each (term : OrderTerm) : references (term.column.fragments ++
        [word (" " ++ term.direction.symbol)]) = [term.column.reference] := by
      rw [references_append_closing (isBreak_blank _), Column.references_fragments]
    simp only [each, List.map_eq_flatMap]

theorem detached_orderFragments (terms : List OrderTerm) : Detached (orderFragments terms) := by
  rw [orderFragments]
  split
  · exact .nil
  · exact detached_cons rfl _

theorem references_writtenBound (keyword : String) (rows : Option Int64) :
    references (writtenBound keyword rows) = [] := by
  cases rows with
  | none => rfl
  | some rows => exact references_word_cons _ _

theorem detached_writtenBound {keyword : String} (breaks : isBreak keyword = true)
    (rows : Option Int64) : Detached (writtenBound keyword rows) := by
  cases rows with
  | none => exact .nil
  | some rows => exact detached_cons breaks _

/-- The columns of a query in the order in which they are written: those of the projection, of
the conditions of its joins, of its condition, and of its order. -/
def columns (select : Select) : List Column :=
  select.projection.map (·.column) ++ select.joins.flatMap (·.on.columns) ++
    select.condition.toList.flatMap Expr.columns ++ select.order.map (·.column)

/-- **A query writes its columns.** -/
theorem references_written (select : Select) :
    references select.written = select.columns.map Column.reference := by
  have source : references [word " FROM ", identifier select.sourceTable, word " AS ",
      identifier select.source] = [] := by
    show references (word " FROM " :: ([identifier select.sourceTable] ++
      word " AS " :: [identifier select.source])) = _
    rw [references_word_cons, references_append_word rfl]
    rfl
  have sourceDetached : Detached [word " FROM ", identifier select.sourceTable, word " AS ",
      identifier select.source] := detached_cons rfl _
  have start : references ([word "SELECT "] ++ projectionFragments select.projection) =
      select.projection.map (·.column.reference) := by
    rw [← references_projectionFragments]
    exact references_word_cons _ _
  rw [written, references_append_closing rfl, detached_writtenBound rfl,
    detached_writtenBound rfl, detached_orderFragments, detached_writtenWhere,
    Detached.flatMap Join.detached_written, sourceDetached, start, source,
    references_flatMap Join.detached_written, references_writtenWhere, references_orderFragments,
    references_writtenBound, references_writtenBound]
  simp [columns, Join.references_written, List.map_flatMap, Function.comp_def]

/-- A query that passes its check owns its columns by aliases of its scope. -/
theorem mem_keys_of_mem_columns {select : Select}
    (known : ∀ aliasName ∈ select.usedAliases, aliasName ∈ select.scope.keys) {column : Column}
    (member : column ∈ select.columns) : column.owner ∈ select.scope.keys := by
  refine known _ (mem_usedAliases.mpr (.inr ?_))
  simp only [columns, List.mem_append, or_assoc] at member
  rcases member with projection | on | condition | order
  · obtain ⟨output, isOutput, rfl⟩ := List.mem_map.mp projection
    exact .inr (.inl ⟨output, isOutput, rfl⟩)
  · obtain ⟨join, isJoin, inOn⟩ := List.mem_flatMap.mp on
    exact .inl ⟨join, isJoin, .inr ⟨column, inOn, rfl⟩⟩
  · exact .inr (.inr (.inl ⟨column, condition, rfl⟩))
  · obtain ⟨term, isTerm, rfl⟩ := List.mem_map.mp order
    exact .inr (.inr (.inr ⟨term, isTerm, rfl⟩))

end Select

/-! ## Whole texts -/

section

variable {dialect : Dialect}

/-- The references in the text of an expression are those that its fragments write. -/
theorem Expr.references_text (standard : dialect.IsStandard) {e : Expr} {compiled : Compiled}
    (rendered : e.compile dialect = .ok compiled) :
    (Quoted.parts? compiled.text.toList).map Quoted.references =
      some (e.columns.map Column.reference) := by
  obtain ⟨-, rfl⟩ := compile_eq_ok_iff.mp rendered
  have atEnd : Quoted.Apart [] := by simp [Quoted.Apart]
  have read := parts?_chars standard e.allPlain_written e.parted_written atEnd
  rw [List.append_nil] at read
  show (Quoted.parts? (Compiled.ofFragments dialect e.written).text.toList).map _ = _
  rw [Compiled.ofFragments, String.toList_ofList, read, ← e.references_written]
  simp [references, Quoted.parts?, Quoted.partsFrom?]

end

/-- **What is written are the columns that the check of aliases collects**, in the same order. So
in a query that renders, hand-made ones included, every qualifier is an alias of its scope. -/
theorem writes_collected_columns :
    (∀ (e : Expr) (fragments : List Fragment), e.fragments = .ok fragments →
      references fragments = e.columns.map Column.reference) ∧
    (∀ (dialect : Dialect) (e : Expr) (compiled : Compiled), dialect.IsStandard →
      e.compile dialect = .ok compiled →
        (Quoted.parts? compiled.text.toList).map Quoted.references =
          some (e.columns.map Column.reference)) ∧
    ∀ (dialect : Dialect) (select : Select) (compiled : Compiled),
      (Statement.select select).compile dialect = .ok compiled →
        (∃ fragments, select.fragments = .ok fragments ∧
          compiled = .ofFragments dialect fragments ∧
          references fragments = select.columns.map Column.reference ∧
          ∀ reference ∈ references fragments, reference.qualifier ∈ select.scope.keys) ∧
        (dialect.IsStandard → (Quoted.parts? compiled.text.toList).map Quoted.references =
          some (select.columns.map Column.reference)) := by
  refine ⟨?_, ?_, ?_⟩
  · intro e fragments answered
    obtain ⟨-, rfl⟩ := Expr.fragments_eq_ok_iff.mp answered
    exact e.references_written
  · intro dialect e compiled standard rendered
    exact e.references_text standard rendered
  · intro dialect select compiled rendered
    rw [Statement.compile_eq_answer, answer_eq_ok_iff] at rendered
    obtain ⟨faultless, rfl⟩ := rendered
    have wellFormed := Select.faults_eq_nil_iff.mp faultless
    have answered : select.fragments = .ok select.written := by
      rw [Select.fragments_eq_answer, answer_eq_ok_iff]
      exact ⟨faultless, rfl⟩
    refine ⟨⟨select.written, answered, rfl, select.references_written, ?_⟩, ?_⟩
    · intro reference member
      rw [select.references_written] at member
      obtain ⟨column, isColumn, rfl⟩ := List.mem_map.mp member
      exact Select.mem_keys_of_mem_columns wellFormed.1 isColumn
    · intro standard
      have read := Compiled.parts?_text standard select.isClosed_written select.parted_written
      show (Quoted.parts? (Compiled.ofFragments dialect select.written).text.toList).map _ = _
      rw [read, ← select.references_written]
      rfl

/-- A column under an alias with a point and a quote. -/
def Column.pointed : Column := { name := "fileName", type := .text, owner := "a.\"b" }

/-- A condition that compares the column with a text. -/
def Expr.pointed : Expr := .binary (.column .pointed) .eq (.literal (.text "c.d"))

/-- A query of the column, under the condition and in the order of the column. -/
def Select.pointed : Select where
  scope := Dictionary.empty.insert "a.\"b" "files"
  projection := [.ofColumn .pointed]
  source := "a.\"b"
  condition := some .pointed
  order := [⟨.pointed, .ascending⟩]

/-- The column is found in the condition, and three times in the query, by its alias and its name
in SQL. -/
theorem writes_collected_columns_pointed :
    ∃ fragments compiled query, Expr.pointed.fragments = .ok fragments ∧
      Expr.pointed.compile .sqlite = .ok compiled ∧
      (Statement.select .pointed).compile .sqlite = .ok query ∧
      let reference : Reference := ⟨"a.\"b", "file_name"⟩
      references fragments = [reference] ∧
        (Quoted.parts? compiled.text.toList).map Quoted.references = some [reference] ∧
        (Quoted.parts? query.text.toList).map Quoted.references =
          some [reference, reference, reference] ∧
        reference.qualifier ∈ Select.pointed.scope.keys := by
  obtain ⟨ofFragments, ofText, ofQuery⟩ := writes_collected_columns
  refine ⟨_, _, _, rfl, rfl, rfl, ?_⟩
  obtain ⟨⟨fragments, answered, -, written, known⟩, read⟩ := ofQuery .sqlite .pointed _ rfl
  refine ⟨ofFragments .pointed _ rfl, ofText .sqlite .pointed _ Dialect.sqlite_isStandard rfl,
    read Dialect.sqlite_isStandard, known _ ?_⟩
  rw [written]
  exact List.mem_cons_self

end TypedSql
