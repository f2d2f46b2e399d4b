import TypedSql.Proofs.Literals
import TypedSql.Proofs.Shape
import TypedSql.Proofs.Tokens

/-!
# Reading the text of a table

`TableText.ofText?` reads the text of a statement that creates a table. It knows the words of
such a text and nothing of the statement it was rendered from, and it takes the clauses of a
column in any order. It is the same reader for SQLite and for the generic dialect.

The text of a rendered statement is read piece by piece. A quoted text ends where its quote is
not doubled, a number where no character of a number follows, and everything else is a word from
a fixed list. So the reader comes to the end of every piece whatever stands inside the quotes,
and what it has read is what was written (`CreateTable.ofText?_text`). Nothing that a definition
says of a column is lost on the way (`CreateTable.text_loses_nothing`).
-/

set_option autoImplicit false

namespace TypedSql

open Fragment Outcome

/-! ## The reader -/

/-- A clause of a column definition. -/
inductive Clause where
  | primaryKey
  | autoincrement
  | notNull
  | unique
  | default (literal : String)
deriving DecidableEq, Repr

/-- A clause that is there only on a condition. -/
def Clause.onlyIf (clause : Clause) (condition : Bool) : List Clause :=
  if condition then [clause] else []

/-- The definition of a column as it is read. -/
structure ColumnText where
  name : String
  type : String
  clauses : List Clause
deriving DecidableEq, Repr

/-- The definition of a table as it is read. -/
structure TableText where
  name : String
  unlogged : Bool
  ifNotExists : Bool
  columns : List ColumnText
deriving DecidableEq, Repr

namespace TableText

/-- The input behind a text that it starts with. -/
def skip? (text : String) (input : List Char) : Option (List Char) :=
  if text.toList.isPrefixOf input then some (input.drop text.length) else none

/-- Whether the input starts with a text, and what follows it. -/
def skipIf (text : String) (input : List Char) : Bool × List Char :=
  match skip? text input with
  | some rest => (true, rest)
  | none => (false, input)

/-- Reads the first of the texts that the input starts with. -/
def readFirst? {α : Type} (texts : List (String × α)) (input : List Char) :
    Option (α × List Char) :=
  texts.findSome? fun text => (skip? text.1 input).map (text.2, ·)

/-- The names of the types without a size. -/
def typeWords : List String :=
  ["INTEGER", "REAL", "TEXT", "BLOB", "BOOLEAN", "TIMESTAMP", "DOUBLE PRECISION"]

/-- Reads the name of a type. -/
def readType? (input : List Char) : Option (String × List Char) :=
  match skip? "VARCHAR(" input with
  | some rest =>
      (skip? ")" (rest.dropWhile Char.isDigit)).map
        ("VARCHAR(" ++ String.ofList (rest.takeWhile Char.isDigit) ++ ")", ·)
  | none => readFirst? (typeWords.map fun name => (name, name)) input

/-- Reads a text in quotes behind its opening quote, and returns it as it is written. -/
def readQuoted? (before : List Char) (input : List Char) : Option (String × List Char) :=
  (Quoted.readInside? '\'' input).map fun read =>
    (String.ofList (before ++ Quoted.enclose '\'' read.1), read.2)

/-- Reads a literal. -/
def readLiteral? (input : List Char) : Option (String × List Char) :=
  match skip? "X'" input with
  | some rest => readQuoted? ['X'] rest
  | none =>
      match skip? "'" input with
      | some rest => readQuoted? [] rest
      | none => some (String.ofList (input.takeWhile isNumberChar), input.dropWhile isNumberChar)

/-- The clauses that are words, a longer text before the one it starts with. -/
def clauseWords : List (String × Clause) :=
  [(" PRIMARY KEY ASC", .primaryKey), (" PRIMARY KEY", .primaryKey),
    (" AUTOINCREMENT", .autoincrement), (" GENERATED BY DEFAULT AS IDENTITY", .autoincrement),
    (" NOT NULL", .notNull), (" UNIQUE", .unique)]

/-- Reads a clause. -/
def readClause? (input : List Char) : Option (Clause × List Char) :=
  match readFirst? clauseWords input with
  | some read => some read
  | none => do
      let rest ← skip? " DEFAULT " input
      (readLiteral? rest).map fun read => (.default read.1, read.2)

/-- Reads clauses as long as there are any, at most so many. -/
def readClauses : Nat → List Char → List Clause × List Char
  | 0, input => ([], input)
  | steps + 1, input =>
      match readClause? input with
      | some (clause, rest) =>
          let others := readClauses steps rest
          (clause :: others.1, others.2)
      | none => ([], input)

/-- Reads the definition of a column. -/
def readColumn? (input : List Char) : Option (ColumnText × List Char) := do
  let name ← Quoted.read? '"' input
  let rest ← skip? " " name.2
  let type ← readType? rest
  let clauses := readClauses type.2.length type.2
  pure (⟨String.ofList name.1, type.1, clauses.1⟩, clauses.2)

/-- Reads the definitions of columns, at most so many. -/
def readColumns : Nat → List Char → List ColumnText × List Char
  | 0, input => ([], input)
  | steps + 1, input =>
      match readColumn? input with
      | some (column, rest) =>
          match skip? ", " rest with
          | some next =>
              let others := readColumns steps next
              (column :: others.1, others.2)
          | none => ([column], rest)
      | none => ([], input)

/-- Reads the text of a statement that creates a table. -/
def ofText? (text : String) : Option TableText := do
  let rest ← skip? "CREATE " text.toList
  let unlogged := skipIf "UNLOGGED " rest
  let rest ← skip? "TABLE " unlogged.2
  let ifNotExists := skipIf "IF NOT EXISTS " rest
  let name ← Quoted.read? '"' ifNotExists.2
  let rest ← skip? " (" name.2
  let columns := readColumns rest.length rest
  if columns.2 = ");".toList then
    some ⟨String.ofList name.1, unlogged.1, ifNotExists.1, columns.1⟩
  else none

/-! ## Single pieces -/

theorem skip?_eq_some_iff {text : String} {input rest : List Char} :
    skip? text input = some rest ↔ input = text.toList ++ rest := by
  rw [skip?]
  constructor
  · intro found
    split at found
    case isTrue starts =>
      obtain ⟨after, rfl⟩ := List.isPrefixOf_iff_prefix.mp starts
      cases found
      rw [← String.length_toList, List.drop_left]
    case isFalse => cases found
  · rintro rfl
    rw [if_pos (List.isPrefixOf_iff_prefix.mpr (List.prefix_append _ _)),
      ← String.length_toList, List.drop_left]

@[simp] theorem skip?_append (text : String) (rest : List Char) :
    skip? text (text.toList ++ rest) = some rest :=
  skip?_eq_some_iff.mpr rfl

variable {dialect : Dialect} {input rest : List Char}

theorem skipIf_wordIf {text : String} (absent : skip? text rest = none) (condition : Bool) :
    skipIf text ((wordIf condition text).flatMap (·.chars dialect) ++ rest) =
      (condition, rest) := by
  cases condition <;> simp [skipIf, wordIf, chars, absent]

theorem readType?_word {name : String} (member : name ∈ typeWords) (rest : List Char) :
    readType? (name.toList ++ rest) = some (name, rest) := by
  simp only [typeWords, List.mem_cons, List.not_mem_nil, or_false] at member
  rcases member with rfl | rfl | rfl | rfl | rfl | rfl | rfl <;> rfl

theorem readType?_varchar (size : Nat) (rest : List Char) :
    readType? (("VARCHAR(" ++ toString size ++ ")").toList ++ rest) =
      some ("VARCHAR(" ++ toString size ++ ")", rest) := by
  have closing : skip? ")" (')' :: rest) = some rest := skip?_append ")" rest
  have stop : ∀ c, (')' :: rest).head? = some c → c.isDigit = false := by
    intro c head
    cases head
    rfl
  have number := takeWhile_append_of_stop (fun _ => isDigit_of_mem_toString (n := size)) stop
  have written : ("VARCHAR(" ++ toString size ++ ")").toList ++ rest =
      "VARCHAR(".toList ++ ((toString size).toList ++ ')' :: rest) := by
    simp only [String.toList_append, List.append_assoc]
    rfl
  rw [written, readType?, skip?_append]
  simp only [number, closing, Option.map_some, String.ofList_toList]

/-- The name of a type is read whatever stands behind it. -/
theorem readType?_typeName (known : dialect = .sqlite ∨ dialect = .generic) (type : ColumnType)
    (size : Option Nat) (rest : List Char) :
    readType? ((dialect.typeName type size).toList ++ rest) =
      some (dialect.typeName type size, rest) := by
  rcases known with rfl | rfl
  · have word : Dialect.sqlite.typeName type size ∈ typeWords := by
      cases type <;> simp [typeWords, Dialect.sqlite, Dialect.sqliteType]
    exact readType?_word word rest
  · cases type
    case varchar => exact readType?_varchar _ rest
    all_goals exact readType?_word (by simp [typeWords, Dialect.generic, Dialect.genericType]) rest

/-- What may stand behind a literal. -/
def EndsLiteral (rest : List Char) : Prop :=
  ∀ c, rest.head? = some c → isNumberChar c = false ∧ c ≠ '\''

theorem readQuoted?_double (before text : List Char) (ends : EndsLiteral rest) :
    readQuoted? before (Quoted.double '\'' text ++ '\'' :: rest) =
      some (String.ofList (before ++ Quoted.enclose '\'' text), rest) := by
  have closed : rest.head? ≠ some '\'' := fun head => (ends _ head).2 rfl
  rw [readQuoted?, Quoted.readInside?_double text closed]
  rfl

theorem readLiteral?_number {text : List Char} (number : ∀ c ∈ text, isNumberChar c = true)
    (ends : EndsLiteral rest) (nonempty : text ≠ []) :
    readLiteral? (text ++ rest) = some (String.ofList text, rest) := by
  have noQuote : '\'' ∉ text := fun member => absurd (number _ member) (by decide)
  have unmarked : skip? "X'" (text ++ rest) = none := by
    rw [Option.eq_none_iff_forall_ne_some]
    intro after found
    have same : text ++ rest = 'X' :: '\'' :: after := skip?_eq_some_iff.mp found
    cases text with
    | nil => exact nonempty rfl
    | cons first others =>
        obtain ⟨rfl, behind⟩ := List.cons.inj same
        cases others with
        | nil => exact (ends '\'' (congrArg List.head? behind)).2 rfl
        | cons second => exact noQuote (by simp [(List.cons.inj behind).1])
  have unquoted : skip? "'" (text ++ rest) = none := by
    rw [Option.eq_none_iff_forall_ne_some]
    intro after found
    have same : text ++ rest = '\'' :: after := skip?_eq_some_iff.mp found
    cases text with
    | nil => exact nonempty rfl
    | cons first => exact noQuote (by simp [(List.cons.inj same).1])
  have run := takeWhile_append_of_stop number fun c head => (ends c head).1
  simp only [readLiteral?, unmarked, unquoted, run]

/-- A literal is read whatever its text is. -/
theorem readLiteral?_literal (value : Stored) (ends : EndsLiteral rest) :
    readLiteral? (value.literal ++ rest) = some (value.inline, rest) := by
  have signed {text : List Char} (signed : IsSigned text) :
      readLiteral? (text ++ rest) = some (String.ofList text, rest) := by
    obtain ⟨digits, either, nonempty, -⟩ := id signed
    refine readLiteral?_number (fun c => signed.isNumberChar_of_mem) ends ?_
    rcases either with rfl | rfl
    · exact nonempty
    · exact List.cons_ne_nil _ _
  cases value with
  | null =>
      have letters : "NULL".toList.all isNumberChar = true := rfl
      exact readLiteral?_number (List.all_eq_true.mp letters) ends (by decide)
  | int n => exact signed (isSigned_integerDigits _)
  | float x => exact signed x.isSigned_plainText
  | text content =>
      rw [Stored.literal, Quoted.enclose, List.cons_append, List.append_assoc]
      exact readQuoted?_double [] content.toList ends
  | blob bytes =>
      rw [Stored.literal, Quoted.enclose, List.cons_append, List.cons_append, List.append_assoc]
      exact readQuoted?_double ['X'] (bytes.flatMap Stored.hexByte) ends

/-! ## Clauses -/

/-- What stands behind the definition of a column. -/
def Closes (rest : List Char) : Prop := ∃ c after, rest = c :: after ∧ (c = ',' ∨ c = ')')

theorem closes_comma (after : List Char) : Closes (", ".toList ++ after) :=
  ⟨',', ' ' :: after, rfl, .inl rfl⟩

theorem closes_parenthesis : Closes ");".toList := ⟨')', [';'], rfl, .inr rfl⟩

theorem Closes.endsLiteral (closes : Closes rest) : EndsLiteral rest := by
  obtain ⟨c, after, rfl, either⟩ := closes
  intro first head
  cases head
  rcases either with rfl | rfl <;> exact ⟨rfl, by decide⟩

theorem Closes.readClause?_eq_none (closes : Closes rest) : readClause? rest = none := by
  obtain ⟨c, after, rfl, rfl | rfl⟩ := closes <;> rfl

/-- `PRIMARY KEY` is told from `PRIMARY KEY ASC` by what follows it. -/
theorem readClause?_primaryKey (known : dialect = .sqlite ∨ dialect = .generic)
    (notAscending : skip? " ASC" rest = none) :
    readClause? ((" " ++ dialect.primaryKey).toList ++ rest) = some (.primaryKey, rest) := by
  rcases known with rfl | rfl
  · rfl
  · have longer : skip? " PRIMARY KEY ASC" (" PRIMARY KEY".toList ++ rest) = none := notAscending
    have read : readFirst? clauseWords (" PRIMARY KEY".toList ++ rest) =
        some (.primaryKey, rest) := by
      rw [readFirst?, clauseWords, List.findSome?_cons, longer, List.findSome?_cons, skip?_append]
      rfl
    have words : (" " ++ Dialect.generic.primaryKey).toList = " PRIMARY KEY".toList := rfl
    rw [words, readClause?, read]

theorem readClause?_autoincrement (known : dialect = .sqlite ∨ dialect = .generic) :
    readClause? ((" " ++ dialect.autoincrement).toList ++ rest) =
      some (.autoincrement, rest) := by
  rcases known with rfl | rfl <;> rfl

theorem readClause?_default (value : Stored) (ends : EndsLiteral rest) :
    readClause? (" DEFAULT ".toList ++ (value.literal ++ rest)) =
      some (.default value.inline, rest) := by
  have other : readFirst? clauseWords (" DEFAULT ".toList ++ (value.literal ++ rest)) = none := rfl
  rw [readClause?, other, skip?_append]
  exact congrArg (Option.map _) (readLiteral?_literal value ends)

/-- The input begins with these clauses, and the rest follows them. -/
def ReadsClauses (input : List Char) (clauses : List Clause) (rest : List Char) : Prop :=
  ∀ steps, input.length ≤ steps → readClauses steps input = (clauses, rest)

namespace ReadsClauses

variable {clauses : List Clause}

theorem nil (ends : readClause? rest = none) : ReadsClauses rest [] rest := by
  intro steps _
  cases steps with
  | zero => rfl
  | succ steps => rw [readClauses, ends]

theorem cons {text : List Char} {clause : Clause} (spelled : text ≠ [])
    (read : readClause? (text ++ input) = some (clause, input))
    (reads : ReadsClauses input clauses rest) :
    ReadsClauses (text ++ input) (clause :: clauses) rest := by
  intro steps enough
  rw [List.length_append] at enough
  have positive := List.length_pos_of_ne_nil spelled
  cases steps with
  | zero => omega
  | succ steps =>
      rw [readClauses, read]
      simp only [reads steps (by omega)]

/-- A clause that is written on a condition is read on it. -/
theorem clauseIf (dialect : Dialect) (condition : Bool) {text : String} {clause : Clause}
    (spelled : text.toList ≠ [])
    (read : condition = true → readClause? (text.toList ++ input) = some (clause, input))
    (reads : ReadsClauses input clauses rest) :
    ReadsClauses ((wordIf condition text).flatMap (·.chars dialect) ++ input)
      (clause.onlyIf condition ++ clauses) rest := by
  cases condition with
  | false => exact reads
  | true => simpa [wordIf, chars, Clause.onlyIf] using cons spelled (read rfl) reads

end ReadsClauses

end TableText

namespace Column

/-- The clauses that a column definition has. -/
def clauses (column : Column) : List Clause :=
  Clause.primaryKey.onlyIf column.primaryKey ++
    (Clause.autoincrement.onlyIf column.autoincrement ++
      (Clause.notNull.onlyIf (!column.nullable && !column.primaryKey && !column.autoincrement) ++
        (Clause.unique.onlyIf (column.unique && !column.primaryKey) ++
          (column.storedDefault?.map fun value => .default value.inline).toList)))

/-- The definition of a column in the text of a table. -/
def text (dialect : Dialect) (column : Column) : ColumnText :=
  ⟨column.sqlName, dialect.typeName column.type column.size, column.clauses⟩

end Column

namespace TableText

variable {dialect : Dialect} {input rest : List Char}

/-- What follows the words for a primary key does not go on with `ASC`. -/
theorem skip?_ascending (known : dialect = .sqlite ∨ dialect = .generic) (autoincrement : Bool)
    (default : Option Stored) (closes : Closes rest) :
    skip? " ASC" ((wordIf autoincrement (" " ++ dialect.autoincrement)).flatMap (·.chars dialect) ++
      ((Column.writtenDefault default).flatMap (·.chars dialect) ++ rest)) = none := by
  cases autoincrement with
  | true => rcases known with rfl | rfl <;> rfl
  | false =>
      cases default with
      | some value => rfl
      | none => obtain ⟨c, after, rfl, rfl | rfl⟩ := closes <;> rfl

theorem readsClauses_default (dialect : Dialect) (default : Option Stored)
    (closes : Closes rest) :
    ReadsClauses ((Column.writtenDefault default).flatMap (·.chars dialect) ++ rest)
      (default.map fun value => .default value.inline).toList rest := by
  have last : ReadsClauses rest [] rest := .nil closes.readClause?_eq_none
  cases default with
  | none => exact last
  | some value =>
      have read := readClause?_default value closes.endsLiteral
      rw [← List.append_assoc] at read
      simpa [Column.writtenDefault, chars] using ReadsClauses.cons (by simp) read last

/-- The clauses of a column are read up to what closes its definition. -/
theorem readsClauses_column (known : dialect = .sqlite ∨ dialect = .generic) (column : Column)
    (closes : Closes rest) :
    ReadsClauses ((column.keyFragments dialect ++
        Column.writtenDefault column.storedDefault?).flatMap (·.chars dialect) ++ rest)
      column.clauses rest := by
  have default := readsClauses_default dialect column.storedDefault? closes
  have unique := default.clauseIf dialect (column.unique && !column.primaryKey)
    (by decide : " UNIQUE".toList ≠ []) fun _ => rfl
  have notNull := unique.clauseIf dialect
    (!column.nullable && !column.primaryKey && !column.autoincrement)
    (by decide : " NOT NULL".toList ≠ []) fun _ => rfl
  have autoincrement := notNull.clauseIf dialect column.autoincrement (by simp)
    fun _ => readClause?_autoincrement known
  have primaryKey := autoincrement.clauseIf dialect column.primaryKey (by simp) fun isKey =>
    readClause?_primaryKey known (by
      have ascending := skip?_ascending known column.autoincrement column.storedDefault? closes
      simpa [isKey, wordIf] using ascending)
  simpa [Column.keyFragments, Column.clauses, List.append_assoc] using primaryKey

/-! ## Columns and tables -/

theorem read?_identifier (known : dialect = .sqlite ∨ dialect = .generic) (name : String)
    (closed : rest.head? ≠ some '"') :
    Quoted.read? '"' (dialect.identifier name ++ rest) = some (name.toList, rest) := by
  rw [Dialect.identifier, (Dialect.isStandard_of_known known).quote, Quoted.enclose,
    List.cons_append, List.append_assoc, Quoted.read?, if_pos rfl]
  exact Quoted.readInside?_double name.toList closed

/-- The definition of a column is read up to what closes it. -/
theorem readColumn?_written (known : dialect = .sqlite ∨ dialect = .generic) (column : Column)
    (closes : Closes rest) :
    readColumn? ((column.written dialect).flatMap (·.chars dialect) ++ rest) =
      some (column.text dialect, rest) := by
  have written : (column.written dialect).flatMap (·.chars dialect) ++ rest =
      dialect.identifier column.sqlName ++ (" ".toList ++
        ((dialect.typeName column.type column.size).toList ++
          ((column.keyFragments dialect ++
            Column.writtenDefault column.storedDefault?).flatMap (·.chars dialect) ++ rest))) := by
    simp [Column.written, chars]
  have clauses := readsClauses_column known column closes _ (Nat.le_refl _)
  rw [written, readColumn?, read?_identifier known _ (by simp)]
  simp only [Option.bind_eq_bind, Option.bind_some, skip?_append, readType?_typeName known,
    clauses, String.ofList_toList]
  rfl

/-- The characters of the definitions of columns. -/
def columnChars (dialect : Dialect) (columns : List Column) : List Char :=
  (separated ", " (columns.map (·.written dialect))).flatMap (·.chars dialect)

theorem columnChars_cons_cons (dialect : Dialect) (first second : Column)
    (others : List Column) :
    columnChars dialect (first :: second :: others) =
      (first.written dialect).flatMap (·.chars dialect) ++
        (", ".toList ++ columnChars dialect (second :: others)) := by
  simp [columnChars, separated, chars]

/-- The definitions of columns are read up to the closing parenthesis. -/
theorem readColumns_written (known : dialect = .sqlite ∨ dialect = .generic)
    (columns : List Column) : ∀ steps, (columnChars dialect columns).length < steps →
      readColumns steps (columnChars dialect columns ++ ");".toList) =
        (columns.map (·.text dialect), ");".toList) := by
  induction columns with
  | nil =>
      intro steps enough
      cases steps with
      | zero => rfl
      | succ steps => rfl
  | cons first others ih =>
      intro steps enough
      obtain ⟨steps, rfl⟩ := Nat.exists_eq_succ_of_ne_zero (Nat.ne_zero_of_lt enough)
      cases others with
      | nil =>
          have read := readColumn?_written known first closes_parenthesis
          have only : columnChars dialect [first] =
              (first.written dialect).flatMap (·.chars dialect) := by
            simp [columnChars, separated]
          rw [only, readColumns, read]
          rfl
      | cons second others =>
          rw [columnChars_cons_cons] at enough ⊢
          have shorter : (columnChars dialect (second :: others)).length < steps := by
            simp at enough
            omega
          have read := readColumn?_written known first
            (closes_comma (columnChars dialect (second :: others) ++ ");".toList))
          rw [List.append_assoc, List.append_assoc, readColumns, read]
          simp only [skip?_append, ih steps shorter]
          rfl

end TableText

/-- **The text of a rendered definition is read back as what was written.** -/
theorem CreateTable.ofText?_text {dialect : Dialect}
    (known : dialect = .sqlite ∨ dialect = .generic) {create : CreateTable} {compiled : Compiled}
    (rendered : (Statement.createTable create).compile dialect = .ok compiled) :
    TableText.ofText? compiled.text =
      some ⟨create.table.name, create.unlogged, create.ifNotExists,
        create.table.columns.map (·.text dialect)⟩ := by
  rw [Statement.compile_eq_answer, answer_eq_ok_iff] at rendered
  have written : compiled.text.toList = "CREATE ".toList ++
      ((wordIf create.unlogged "UNLOGGED ").flatMap (·.chars dialect) ++ ("TABLE ".toList ++
        ((wordIf create.ifNotExists "IF NOT EXISTS ").flatMap (·.chars dialect) ++
          (dialect.identifier create.table.name ++ (" (".toList ++
            (TableText.columnChars dialect create.table.columns ++ ");".toList)))))) := by
    rw [← rendered.2]
    simp [Compiled.ofFragments, Statement.written, CreateTable.written, chars,
      TableText.columnChars]
  have columns := TableText.readColumns_written known create.table.columns
    (TableText.columnChars dialect create.table.columns ++ ");".toList).length (by simp)
  have unlogged (rest : List Char) : TableText.skipIf "UNLOGGED "
      ((wordIf create.unlogged "UNLOGGED ").flatMap (·.chars dialect) ++ ("TABLE ".toList ++ rest)) =
        (create.unlogged, "TABLE ".toList ++ rest) :=
    TableText.skipIf_wordIf rfl create.unlogged
  have ifNotExists (rest : List Char) : TableText.skipIf "IF NOT EXISTS "
      ((wordIf create.ifNotExists "IF NOT EXISTS ").flatMap (·.chars dialect) ++
        (dialect.identifier create.table.name ++ rest)) =
        (create.ifNotExists, dialect.identifier create.table.name ++ rest) := by
    refine TableText.skipIf_wordIf ?_ create.ifNotExists
    rw [Dialect.identifier, (Dialect.isStandard_of_known known).quote]
    rfl
  rw [TableText.ofText?, written]
  simp only [Option.bind_eq_bind, TableText.skip?_append, Option.bind_some, unlogged, ifNotExists]
  rw [TableText.read?_identifier known _ (by simp)]
  simp only [TableText.skip?_append, Option.bind_some, columns, if_true, String.ofList_toList]

/-! ## Nothing is lost -/

/-- What the definition of a column says of it. -/
structure ColumnSummary where
  sqlName : String
  type : String
  primaryKey : Bool
  autoincrement : Bool
  notNull : Bool
  unique : Bool
  default : Option String
deriving DecidableEq, Repr

/-- The literal of a default. -/
def Clause.literal? : Clause → Option String
  | default literal => some literal
  | _ => none

/-- What is read of a column. -/
def ColumnText.summary (column : ColumnText) : ColumnSummary where
  sqlName := column.name
  type := column.type
  primaryKey := column.clauses.contains .primaryKey
  autoincrement := column.clauses.contains .autoincrement
  notNull := column.clauses.contains .notNull
  unique := column.clauses.contains .unique
  default := column.clauses.findSome? (·.literal?)

/-- What is declared of a column, as far as a definition says it. -/
def Column.summary (dialect : Dialect) (column : Column) : ColumnSummary where
  sqlName := column.sqlName
  type := dialect.typeName column.type column.size
  primaryKey := column.primaryKey
  autoincrement := column.autoincrement
  notNull := !column.nullable && !column.primaryKey && !column.autoincrement
  unique := column.unique && !column.primaryKey
  default := column.storedDefault?.map (·.inline)

theorem Column.summary_text (dialect : Dialect) (column : Column) :
    (column.text dialect).summary = column.summary dialect := by
  rw [text, ColumnText.summary, summary, clauses]
  -- Every clause is there on a condition of its own, so the conditions are split.
  cases column.primaryKey <;> cases column.autoincrement <;> cases column.nullable <;>
    cases column.unique <;> cases column.storedDefault? <;> rfl

/-- **The text of a definition loses nothing.** In the dialect of SQLite and in the generic one
the flags of the statement, the name of the table and what is said of each column are read from
the text, whatever the names and defaults are. Statements with one text therefore agree on
them. -/
theorem CreateTable.text_loses_nothing {dialect : Dialect}
    (known : dialect = .sqlite ∨ dialect = .generic) {create : CreateTable} {compiled : Compiled}
    (rendered : (Statement.createTable create).compile dialect = .ok compiled) :
    (∃ read, TableText.ofText? compiled.text = some read ∧
      read.ifNotExists = create.ifNotExists ∧ read.unlogged = create.unlogged ∧
      read.name = create.table.name ∧
      read.columns.map (·.summary) = create.table.columns.map (·.summary dialect)) ∧
    ∀ dialect' other compiled', dialect' = .sqlite ∨ dialect' = .generic →
      (Statement.createTable other).compile dialect' = .ok compiled' →
      compiled'.text = compiled.text →
        other.ifNotExists = create.ifNotExists ∧ other.unlogged = create.unlogged ∧
        other.table.name = create.table.name ∧
        other.table.columns.map (·.summary dialect') =
          create.table.columns.map (·.summary dialect) := by
  have summaries (dialect : Dialect) (columns : List Column) :
      (columns.map (·.text dialect)).map (·.summary) = columns.map (·.summary dialect) := by
    rw [List.map_map]
    exact List.map_congr_left fun column _ => column.summary_text dialect
  have read := ofText?_text known rendered
  refine ⟨⟨_, read, rfl, rfl, rfl, summaries _ _⟩, ?_⟩
  intro dialect' other compiled' known' rendered' same
  have again := ofText?_text known' rendered'
  rw [same, read, Option.some.injEq, TableText.mk.injEq] at again
  obtain ⟨name, unlogged, ifNotExists, columns⟩ := again
  refine ⟨ifNotExists.symm, unlogged.symm, name.symm, ?_⟩
  rw [← summaries, ← columns, summaries]

/-- A table in words that hold the marks of a definition. -/
def CreateTable.ofClauses : CreateTable :=
  .ofWords "t\" (" "a, b" "') NOT NULL, \"c\" TEXT DEFAULT 'x"

/-- Marks inside quotes are read as parts of the names and of the default. -/
theorem CreateTable.text_loses_nothing_ofClauses : ∃ compiled compiled' read,
    (Statement.createTable .ofClauses).compile .sqlite = .ok compiled ∧
      (Statement.createTable .ofClauses).compile .generic = .ok compiled' ∧
      compiled'.text = compiled.text ∧ TableText.ofText? compiled.text = some read ∧
      read.name = "t\" (" ∧
      read.columns.map (·.summary) = [{
        sqlName := "a, b", type := "TEXT", primaryKey := false, autoincrement := false,
        notNull := true, unique := false,
        default := some "''') NOT NULL, \"c\" TEXT DEFAULT ''x'" }] ∧
      CreateTable.ofClauses.table.columns.map (·.summary .generic) =
        CreateTable.ofClauses.table.columns.map (·.summary .sqlite) := by
  have rendered : (Statement.createTable .ofClauses).compile .sqlite = .ok _ := rfl
  have other : (Statement.createTable .ofClauses).compile .generic = .ok _ := rfl
  obtain ⟨⟨read, ofText, -, -, name, columns⟩, agree⟩ :=
    text_loses_nothing (.inl rfl) rendered
  exact ⟨_, _, read, rendered, other, rfl, ofText, name, columns,
    (agree _ _ _ (.inr rfl) other rfl).2.2.2⟩

end TypedSql
