import TypedSql.Proofs.Parting
import TypedSql.Proofs.Payload
import TypedSql.Proofs.Shortest

/-!
# Names do not reach the outline

Two statements have the same shape if they differ in names and in the contents of values only:
they have the same clauses, the same flags, types and sizes, the same operators over columns and
literals, and defaults of the same storage classes. NULL and the truth values are words and
belong to the shape, and so do the numbers among the defaults.

The numbers are compared as numbers, and there is one number that is written in two ways: a zero
with a sign is written with the sign, and equals the zero without one. So statements of one shape
have the same outline exactly when their zeros have the same signs (`Statement.SameZeroSigns`),
and it is the outline of one statement (`Statement.stays_in_quotes`).
-/

set_option autoImplicit false

namespace TypedSql

open Fragment Outcome

/-! ## Shapes -/

/-- A column without a name. -/
def Column.nameless : Column := { name := "", type := .integer, owner := "" }

/-- An expression without the names of its columns and without its bound values. -/
def Expr.shape (e : Expr) : Expr := e.map (fun _ => .nameless) Value.blank

/-- The kind of a join and the shape of its condition. -/
def Join.shape (join : Join) : JoinKind × Expr := (join.kind, join.on.shape)

/-- Doubles that are one number: numerically equal, or neither of them a number. -/
def Binary64.SameNumber (x y : Binary64) : Prop :=
  x.equals y = true ∨ x.isNaN = true ∧ y.isNaN = true

/-- Stored values of one storage class, equal if they are numbers. -/
inductive Stored.SameShape : Stored → Stored → Prop
  | null : SameShape .null .null
  | int (n : Int64) : SameShape (.int n) (.int n)
  | float {x y : Binary64} (same : x.SameNumber y) : SameShape (.float x) (.float y)
  | text (s t : String) : SameShape (.text s) (.text t)
  | blob (first second : List UInt8) : SameShape (.blob first) (.blob second)

/-- Columns of one type and size with the same flags, whose defaults are of one storage class
and equal if they are numbers. -/
structure Column.SameShape (first second : Column) : Prop where
  type : first.type = second.type
  size : first.size = second.size
  nullable : first.nullable = second.nullable
  primaryKey : first.primaryKey = second.primaryKey
  autoincrement : first.autoincrement = second.autoincrement
  unique : first.unique = second.unique
  default : Option.Rel Stored.SameShape first.storedDefault? second.storedDefault?

/-- Definitions with the same flags and with columns of the same shapes. -/
structure CreateTable.SameShape (first second : CreateTable) : Prop where
  ifNotExists : first.ifNotExists = second.ifNotExists
  unlogged : first.unlogged = second.unlogged
  columns : List.Forall₂ Column.SameShape first.table.columns second.table.columns

/-- Insertions that write as many columns, insert as many records and return as many outputs. -/
structure Insert.SameShape (first second : Insert) : Prop where
  columns : first.table.insertShape.length = second.table.insertShape.length
  records : first.records.length = second.records.length
  outputs : first.returnShape.length = second.returnShape.length

/-- Queries with as many outputs and with the same clauses, names and bound values aside. -/
structure Select.SameShape (first second : Select) : Prop where
  outputs : first.projection.length = second.projection.length
  joins : first.joins.map Join.shape = second.joins.map Join.shape
  condition : first.condition.map Expr.shape = second.condition.map Expr.shape
  order : first.order.map (·.direction) = second.order.map (·.direction)
  limit : first.limit.isSome = second.limit.isSome
  offset : first.offset.isSome = second.offset.isSome

/-- Deletions with the same condition, names and bound values aside. -/
def Delete.SameShape (first second : Delete) : Prop :=
  first.condition.map Expr.shape = second.condition.map Expr.shape

/-- Statements of one kind and of the same shape. -/
def Statement.SameShape : Statement → Statement → Prop
  | createTable first, createTable second => first.SameShape second
  | insert first, insert second => first.SameShape second
  | select first, select second => first.SameShape second
  | delete first, delete second => first.SameShape second
  | _, _ => False

/-! ### Signs of zeros -/

/-- Whether a double is one of the two zeros. -/
def Binary64.isZero (x : Binary64) : Bool := x.magnitudeBits = 0

/-- Stored values that are not two zeros of different signs. -/
def Stored.SameZeroSign (first second : Stored) : Prop :=
  ∀ x y, first = .float x → second = .float y → x.isZero = true → y.isZero = true →
    x.isNegative = y.isNegative

/-- Columns whose defaults are not two zeros of different signs. -/
def Column.SameZeroSign (first second : Column) : Prop :=
  ∀ default ∈ first.storedDefault?, ∀ default' ∈ second.storedDefault?,
    default.SameZeroSign default'

/-- Statements without a column whose default is one zero in the first and the other zero in the
second. -/
def Statement.SameZeroSigns : Statement → Statement → Prop
  | createTable first, createTable second =>
      List.Forall₂ Column.SameZeroSign first.table.columns second.table.columns
  | _, _ => True

namespace Binary64

variable {x y : Binary64}

theorem eq_zero_of_isZero (isZero : x.isZero = true) : x = zero x.isNegative := by
  rw [Binary64.isZero, decide_eq_true_eq] at isZero
  rw [zero, ← isZero, ofMagnitudeBits_magnitudeBits]

/-- Numerically equal doubles are equal, unless they are zeros. -/
theorem eq_or_isZero_of_equals (same : x.equals y = true) :
    x = y ∨ x.isZero = true ∧ y.isZero = true := by
  have rank : x.rank = y.rank := by
    simp only [equals, Bool.and_eq_true, beq_iff_eq] at same
    exact same.2
  have magnitudes : x.magnitudeBits = y.magnitudeBits ∧
      (x.magnitudeBits = 0 ∨ x.isNegative = y.isNegative) := by
    rw [Binary64.rank, Binary64.rank, signed, signed] at rank
    cases negative : x.isNegative <;> cases negative' : y.isNegative <;>
      simp only [negative, negative', if_true, Bool.false_eq_true, if_false, reduceCtorEq,
        or_false, or_true, and_true] at rank ⊢ <;> omega
  rcases magnitudes with ⟨magnitude, zero | sign⟩
  · exact .inr ⟨decide_eq_true zero, decide_eq_true (magnitude ▸ zero)⟩
  · left
    rw [← ofMagnitudeBits_magnitudeBits x, ← ofMagnitudeBits_magnitudeBits y, magnitude, sign]

/-- A zero is written with its sign. -/
theorem plainText_of_isZero (isZero : x.isZero = true) :
    x.plainText = if x.isNegative then "-0".toList else "0".toList := by
  rw [eq_zero_of_isZero isZero]
  cases x.isNegative <;> rfl

/-- One number is written in one way, unless it is zero. -/
theorem SameNumber.plainText_eq_or (same : x.SameNumber y) :
    x.plainText = y.plainText ∨ x.isZero = true ∧ y.isZero = true := by
  rcases same with equal | ⟨nan, nan'⟩
  · exact (eq_or_isZero_of_equals equal).imp_left (congrArg plainText)
  · left
    rw [plainText, plainText, if_pos nan, if_pos nan']

/-- Whatever follows, one number is seen to be written in two ways at the zeros only. -/
theorem SameNumber.append_eq_append_iff (same : x.SameNumber y) {rest rest' : List Char} :
    x.plainText ++ rest = y.plainText ++ rest' ↔
      (x.isZero = true → y.isZero = true → x.isNegative = y.isNegative) ∧ rest = rest' := by
  by_cases zeros : x.isZero = true ∧ y.isZero = true
  · rw [plainText_of_isZero zeros.1, plainText_of_isZero zeros.2]
    -- a sign at the front differs from the digit
    cases x.isNegative <;> cases y.isNegative <;> simp [zeros]
  · rw [same.plainText_eq_or.resolve_right zeros, List.append_cancel_left_eq]
    exact (and_iff_right fun isZero isZero' => absurd ⟨isZero, isZero'⟩ zeros).symm

end Binary64

/-! ### Outlines of one shape -/

theorem Value.outline_written_blank (value : Value) :
    value.blank.written.outline = value.written.outline := by
  cases value with
  | bool truth => cases truth <;> rfl
  | _ => rfl

theorem Expr.outline_written_shape (e : Expr) :
    e.shape.written.map outline = e.written.map outline := by
  have columns (reference : Column) :
      Column.nameless.fragments.map outline = reference.fragments.map outline := rfl
  exact written_map columns Value.outline_written_blank e

theorem Expr.outline_written {first second : Expr} (same : first.shape = second.shape) :
    first.written.map outline = second.written.map outline := by
  rw [← outline_written_shape, same, outline_written_shape]

theorem outline_writtenWhere {first second : Option Expr}
    (same : first.map Expr.shape = second.map Expr.shape) :
    (writtenWhere first).map outline = (writtenWhere second).map outline := by
  have shaped (condition : Option Expr) : (writtenWhere (condition.map Expr.shape)).map outline =
      (writtenWhere condition).map outline := by
    cases condition with
    | none => rfl
    | some condition => simp [writtenWhere, condition.outline_written_shape]
  rw [← shaped, same, shaped]

theorem Stored.SameShape.outline_append_iff {first second : Stored}
    (same : first.SameShape second) {rest rest' : List Char} :
    (Fragment.inline first).outline ++ rest = (Fragment.inline second).outline ++ rest' ↔
      first.SameZeroSign second ∧ rest = rest' := by
  cases same with
  | @float x y same =>
      have signs : SameZeroSign (.float x) (.float y) ↔
          (x.isZero = true → y.isZero = true → x.isNegative = y.isNegative) := by
        constructor
        · exact fun each => each x y rfl rfl
        · rintro sign _ _ ⟨⟩ ⟨⟩
          exact sign
      rw [signs]
      exact same.append_eq_append_iff
  | null | int | text | blob =>
      rw [and_iff_right (by rintro _ _ ⟨⟩)]
      exact List.append_right_inj _

/-- Whatever follows them, columns of one shape are told apart by the signs of zeros only. -/
theorem Column.SameShape.outline_append_iff {first second : Column}
    (same : first.SameShape second) (dialect : Dialect) {rest rest' : List Char} :
    (first.written dialect).flatMap outline ++ rest =
        (second.written dialect).flatMap outline ++ rest' ↔
      first.SameZeroSign second ∧ rest = rest' := by
  have default {one other : Option Stored} (alike : Option.Rel Stored.SameShape one other) :
      (writtenDefault one).flatMap outline ++ rest =
          (writtenDefault other).flatMap outline ++ rest' ↔
        (∀ default ∈ one, ∀ default' ∈ other, default.SameZeroSign default') ∧
          rest = rest' := by
    cases alike with
    | none => simp [writtenDefault]
    | @some stored stored' alike =>
        have written (stored : Stored) : (writtenDefault (some stored)).flatMap outline =
            " DEFAULT ".toList ++ (Fragment.inline stored).outline := by
          simp [writtenDefault, outline]
        rw [written, written, List.append_assoc, List.append_assoc, List.append_right_inj,
          alike.outline_append_iff]
        simp
  have keys : first.keyFragments dialect = second.keyFragments dialect := by
    simp only [keyFragments, same.nullable, same.primaryKey, same.autoincrement, same.unique]
  rw [SameZeroSign, ← default same.default]
  simp [written, keys, same.type, same.size, outline]

namespace CreateTable

theorem outline_columns_iff (dialect : Dialect) {columns columns' : List Column}
    (same : List.Forall₂ Column.SameShape columns columns') {rest rest' : List Char} :
    (columns.flatMap fun column => word ", " :: column.written dialect).flatMap outline ++ rest =
        (columns'.flatMap fun column => word ", " :: column.written dialect).flatMap outline ++
          rest' ↔
      List.Forall₂ Column.SameZeroSign columns columns' ∧ rest = rest' := by
  induction same with
  | nil => simp
  | cons alike _ ih =>
      simp only [List.flatMap_cons, List.flatMap_append, List.append_assoc, List.cons_append,
        List.append_cancel_left_eq, alike.outline_append_iff, ih, List.forall₂_cons, and_assoc]

/-- Definitions of one shape have the same outline exactly when their zeros have the same
signs. -/
theorem outline_written_iff (dialect : Dialect) {first second : CreateTable}
    (same : first.SameShape second) :
    (first.written dialect).flatMap outline = (second.written dialect).flatMap outline ↔
      List.Forall₂ Column.SameZeroSign first.table.columns second.table.columns := by
  have columns {one other : List Column} (alike : List.Forall₂ Column.SameShape one other)
      (rest : List Char) :
      (separated ", " (one.map (·.written dialect))).flatMap outline ++ rest =
          (separated ", " (other.map (·.written dialect))).flatMap outline ++ rest ↔
        List.Forall₂ Column.SameZeroSign one other := by
    cases alike with
    | nil => simp
    | cons first others =>
        simp only [List.map_cons, separated_cons, List.flatMap_map, List.flatMap_append,
          List.append_assoc, first.outline_append_iff, outline_columns_iff dialect others,
          List.forall₂_cons, and_true]
  rw [← columns same.columns ");".toList, written, written]
  simp [same.ifNotExists, same.unlogged, outline]

end CreateTable

/-- The outline does not tell bound values apart. -/
theorem Fragment.map_outline_unbound (fragments : List Fragment) :
    (fragments.map unbound).map outline = fragments.map outline := by
  rw [List.map_map]
  exact List.map_congr_left fun fragment _ => by cases fragment <;> rfl

theorem outline_parts {α : Type} {part : α → List Fragment} {seen : List (List Char)}
    (each : ∀ element, (part element).map outline = seen) (elements : List α) :
    (elements.map part).map (·.map outline) = List.replicate elements.length seen := by
  simp [Function.comp_def, each]

theorem isEmpty_eq_of_length_eq {α β : Type} {first : List α} {second : List β}
    (same : first.length = second.length) : first.isEmpty = second.isEmpty := by
  rw [Bool.eq_iff_iff, List.isEmpty_iff_length_eq_zero, List.isEmpty_iff_length_eq_zero, same]

namespace Insert

theorem outline_blankValues {table table' : Table}
    (columns : table.insertShape.length = table'.insertShape.length) (records : Nat) :
    (blankValues table records).map outline = (blankValues table' records).map outline := by
  have names (shape : List Column) :
      (shape.map fun column => [identifier column.sqlName]).map (·.map outline) =
        List.replicate shape.length [['"']] := outline_parts (by intro _; rfl) shape
  rw [blankValues, blankValues, isEmpty_eq_of_length_eq columns]
  split
  · rfl
  · simp only [List.map_append, map_separated, names, columns]

theorem outline_returningFragments (dialect : Dialect) {outputs outputs' : List Output}
    (same : outputs.length = outputs'.length) :
    (returningFragments dialect outputs).map outline =
      (returningFragments dialect outputs').map outline := by
  have seen (outputs : List Output) :
      (outputs.map fun output => [identifier output.column.sqlName, word " AS ",
        identifier (snakeCase output.name)]).map (·.map outline) =
          List.replicate outputs.length [['"'], " AS ".toList, ['"']] :=
    outline_parts (by intro _; rfl) outputs
  rw [returningFragments, returningFragments, isEmpty_eq_of_length_eq same]
  split
  · simp only [List.map_cons, map_separated, seen, same]
  · rfl

theorem outline_written (dialect : Dialect) {first second : Insert}
    (same : first.SameShape second) :
    (first.written dialect).map outline = (second.written dialect).map outline := by
  rw [← map_outline_unbound, unbound_written, ← map_outline_unbound (second.written dialect),
    unbound_written, same.records]
  simp only [List.map_append, outline_blankValues same.columns,
    outline_returningFragments dialect same.outputs]
  rfl

end Insert

theorem Join.outline_written_shape (join : Join) :
    (written ⟨join.shape.1, "", "", join.shape.2⟩).map outline = join.written.map outline := by
  simp [written, shape, join.on.outline_written_shape, outline]

namespace Select

theorem outline_joins {first second : List Join}
    (same : first.map Join.shape = second.map Join.shape) :
    (first.flatMap Join.written).map outline = (second.flatMap Join.written).map outline := by
  have shaped (joins : List Join) : (joins.flatMap Join.written).map outline =
      (joins.map Join.shape).flatMap fun shape =>
        (Join.written ⟨shape.1, "", "", shape.2⟩).map outline := by
    simp only [List.map_flatMap, List.flatMap_map, Join.outline_written_shape]
  rw [shaped, same, ← shaped]

theorem outline_orderFragments {first second : List OrderTerm}
    (same : first.map (·.direction) = second.map (·.direction)) :
    (orderFragments first).map outline = (orderFragments second).map outline := by
  have seen (terms : List OrderTerm) :
      (terms.map fun term =>
        term.column.fragments ++ [word (" " ++ term.direction.symbol)]).map (·.map outline) =
          (terms.map (·.direction)).map fun direction =>
            (Column.nameless.fragments ++ [word (" " ++ direction.symbol)]).map outline := by
    rw [List.map_map, List.map_map]
    rfl
  have length : first.length = second.length := by
    simpa using congrArg List.length same
  rw [orderFragments, orderFragments, isEmpty_eq_of_length_eq length]
  split
  · rfl
  · simp only [List.map_cons, map_separated, seen, same]

theorem outline_written {first second : Select} (same : first.SameShape second) :
    first.written.map outline = second.written.map outline := by
  have seen (outputs : List Output) : (projectionFragments outputs).map outline =
      List.intercalate [", ".toList]
        (List.replicate outputs.length [['"'], ['.'], ['"'], " AS ".toList, ['"']]) := by
    rw [projectionFragments, map_separated]
    exact congrArg (List.intercalate _) (outline_parts (by intro _; rfl) outputs)
  have outputs : (projectionFragments first.projection).map outline =
      (projectionFragments second.projection).map outline := by
    rw [seen, seen, same.outputs]
  have rows {keyword : String} {one other : Option Int64} (same : one.isSome = other.isSome) :
      (writtenBound keyword one).map outline = (writtenBound keyword other).map outline := by
    cases one <;> cases other <;> first | rfl | cases same
  simp only [written, List.map_append, outputs, outline_joins same.joins,
    outline_writtenWhere same.condition, outline_orderFragments same.order, rows same.limit,
    rows same.offset]
  rfl

end Select

theorem Delete.outline_written {first second : Delete} (same : first.SameShape second) :
    first.written.map outline = second.written.map outline := by
  simp only [written, List.map_append, outline_writtenWhere same]
  rfl

/-- Statements of one shape have the same outline exactly when their zeros have the same signs. -/
theorem Statement.outline_written_iff (dialect : Dialect) {first second : Statement}
    (same : first.SameShape second) :
    (first.written dialect).flatMap outline = (second.written dialect).flatMap outline ↔
      first.SameZeroSigns second := by
  have alike {one other : List Fragment} (seen : one.map outline = other.map outline) :
      one.flatMap outline = other.flatMap outline ↔ True := by
    rw [List.flatMap_def, List.flatMap_def, seen]
    exact iff_of_true rfl trivial
  cases first <;> cases second
  case createTable.createTable => exact CreateTable.outline_written_iff dialect same
  case insert.insert => exact alike (Insert.outline_written dialect same)
  case select.select => exact alike (Select.outline_written same)
  case delete.delete => exact alike (Delete.outline_written same)
  all_goals cases same

/-! ## Statements in quotes -/

section

variable {dialect : Dialect} {statement : Statement} {compiled : Compiled}

theorem Dialect.isPlain_of_known (known : dialect = .sqlite ∨ dialect = .generic) :
    dialect.IsPlain := by
  rcases known with rfl | rfl
  · exact sqlite_isPlain
  · exact generic_isPlain

theorem Dialect.isStandard_of_known (known : dialect = .sqlite ∨ dialect = .generic) :
    dialect.IsStandard := by
  rcases known with rfl | rfl
  · exact sqlite_isStandard
  · exact generic_isStandard

/-- The parts of the text of a statement are those of its fragments. -/
theorem Compiled.parts?_text (standard : dialect.IsStandard) {fragments : List Fragment}
    (closed : IsClosed fragments) (isParted : parted fragments = true) :
    Quoted.parts? (ofFragments dialect fragments).text.toList =
      some (fragments.flatMap parts) := by
  obtain ⟨body, closing, rfl, either, plain⟩ := closed
  have last : closing ≠ "" ∧
      Quoted.parts? closing.toList = some (closing.toList.map .outside) ∧
      Quoted.Apart closing.toList := by
    rcases either with rfl | rfl <;> exact ⟨by decide, rfl, by simp [Quoted.Apart]⟩
  rw [parted_append_word last.1, Bool.and_eq_true] at isParted
  have read := parts?_chars standard plain isParted.1 last.2.2
  rw [last.2.1] at read
  simpa [ofFragments, chars, parts] using read

theorem Compiled.outline?_text (standard : dialect.IsStandard) {fragments : List Fragment}
    (closed : IsClosed fragments) (isParted : parted fragments = true) :
    Quoted.outline? (ofFragments dialect fragments).text.toList =
      some (fragments.flatMap outline) := by
  rw [Quoted.outline?_eq_map_parts?, parts?_text standard closed isParted]
  simp [List.map_flatMap, map_mark_parts]

/-- The outline of a rendered statement is that of its fragments. -/
theorem Statement.outline?_text (known : dialect = .sqlite ∨ dialect = .generic)
    (rendered : statement.compile dialect = .ok compiled) :
    Quoted.outline? compiled.text.toList = some ((statement.written dialect).flatMap outline) := by
  rw [compile_eq_answer, answer_eq_ok_iff] at rendered
  rw [← rendered.2]
  exact Compiled.outline?_text (Dialect.isStandard_of_known known)
    (isClosed_written (Dialect.isPlain_of_known known) statement)
    (parted_written dialect statement)

/-- **Names and defaults do not break out of their quotes.** In the dialect of SQLite and in the
generic one the text of a statement ends outside quotes, and with its only semicolon there. What
stands outside quotes has no mark of a comment, and depends on the shape of the statement and on
the signs of zeros among its defaults. -/
theorem Statement.stays_in_quotes (known : dialect = .sqlite ∨ dialect = .generic)
    (rendered : statement.compile dialect = .ok compiled) :
    ∃ outline, Quoted.outline? compiled.text.toList = some outline ∧ Quoted.IsSingle outline ∧
      compiled.text.toList.getLast? = some ';' ∧
      ∀ other compiled', Statement.compile dialect other = .ok compiled' →
        statement.SameShape other →
          (Quoted.outline? compiled'.text.toList = some outline ↔
            statement.SameZeroSigns other) := by
  have closed := statement.isClosed_written (Dialect.isPlain_of_known known)
  refine ⟨_, outline?_text known rendered, isSingle_outline closed, ?_, ?_⟩
  · rw [compile_eq_answer, answer_eq_ok_iff] at rendered
    obtain ⟨body, closing, same, either, _⟩ := closed
    rw [← rendered.2, same]
    rcases either with rfl | rfl <;> simp [Compiled.ofFragments, chars]
  · intro other compiled' renderedOther same
    rw [outline?_text known renderedOther, Option.some.injEq, eq_comm]
    exact outline_written_iff dialect same

end

/-- A table of one column with a default, all three in words of choice. -/
def CreateTable.ofWords (table column default : String) : CreateTable where
  table := ⟨table, [{
    name := column, type := .text, owner := table, default := some (.fixed (.text default)) }]⟩

/-- A table in words that hold quotes, semicolons and marks of comments. -/
def CreateTable.ofMarks : CreateTable := .ofWords "t\"; --" "it's" "'); /* \""

/-- The table in words of letters has the outline of the table in words of marks. -/
theorem Statement.stays_in_quotes_ofMarks :
    ∃ one other outline, (Statement.createTable .ofMarks).compile .sqlite = .ok one ∧
      (Statement.createTable (.ofWords "t" "c" "d")).compile .sqlite = .ok other ∧
      Quoted.outline? one.text.toList = some outline ∧
      Quoted.outline? other.text.toList = some outline := by
  have rendered : (Statement.createTable .ofMarks).compile .sqlite = .ok _ := rfl
  have same : (Statement.createTable .ofMarks).SameShape
      (.createTable (.ofWords "t" "c" "d")) :=
    ⟨rfl, rfl, .cons ⟨rfl, rfl, rfl, rfl, rfl, rfl, .some (.text _ _)⟩ .nil⟩
  have noZeros : (Statement.createTable .ofMarks).SameZeroSigns
      (.createTable (.ofWords "t" "c" "d")) := by
    refine .cons ?_ .nil
    rintro _ ⟨⟩ _ ⟨⟩ _ _ ⟨⟩
  obtain ⟨outline, read, -, -, alike⟩ := stays_in_quotes (.inl rfl) rendered
  exact ⟨_, _, outline, rendered, rfl, read, (alike _ _ rfl same).mpr noZeros⟩

/-- A table with a column of doubles whose default is a zero with a sign. -/
def CreateTable.ofZero (negative : Bool) : CreateTable where
  table := ⟨"levels", [{
    name := "level", type := .float, owner := "levels"
    default := some (.fixed (.float (.zero negative))) }]⟩

/-- The two zeros are one number, and are seen outside quotes as `0` and `-0`. -/
theorem Statement.outlines_of_zeros_differ :
    ∃ one other, (Statement.createTable (.ofZero false)).compile .sqlite = .ok one ∧
      (Statement.createTable (.ofZero true)).compile .sqlite = .ok other ∧
      (Statement.createTable (.ofZero false)).SameShape (.createTable (.ofZero true)) ∧
      Quoted.outline? one.text.toList ≠ Quoted.outline? other.text.toList := by
  have rendered (negative : Bool) :
      (Statement.createTable (.ofZero negative)).compile .sqlite = .ok _ := rfl
  refine ⟨_, _, rendered false, rendered true,
    ⟨rfl, rfl, .cons ⟨rfl, rfl, rfl, rfl, rfl, rfl, .some (.float (.inl rfl))⟩ .nil⟩, ?_⟩
  rw [outline?_text (.inl rfl) (rendered false), outline?_text (.inl rfl) (rendered true)]
  decide

end TypedSql
