import TypedSql.Proofs.FileDefaults
import TypedSql.Proofs.IntegerLiterals

/-!
# Integers as defaults in schema files

A schema document lists tables, a table lists columns, and a column may have an integer for its
default. From a document that is read, checked and printed, the default can be followed to the text
of the definition: the declaration has the value of the literal, the statement stores what the
column takes of it, and the definition of the column ends in ` DEFAULT ` and the digits.

`SchemaFile.integer_default` says what these digits are. They are those of the integer in the
document, or else the document is refused on the way. The exception are the 1024 integers below the
range of 64 bits, which are printed as the least integer of the range.
-/

set_option autoImplicit false

namespace TypedSql

open Outcome

/-! ## Documents -/

namespace Json.Tree

/-- The items of the list that a document has in one of its fields. -/
def listed (names : List String) (field : String) (tree : Tree) : List Tree :=
  match (tree.fields? names).bind (·.lookup field) with
  | some (array items) => items
  | _ => []

/-- The columns of the tables of a schema document. -/
def columnTrees (document : Tree) : List Tree :=
  (document.listed ["tables"] "tables").flatMap (·.listed TableDeclaration.fieldNames "columns")

/-- The number literal that a column of integers has for its default, with the value of the
literal, if it has one. -/
def integerDefault? (column : Tree) : Option (Option Number) := do
  let given ← column.fields? ColumnDeclaration.fieldNames
  let type ← required? given "type" ColumnType.ofTree?
  let default ← given.lookup "default"
  match type, default with
  | .integer, number value => some value
  | _, _ => none

/-- What is read of an item is among what is read of the list. -/
theorem exists_mem_of_listed {α : Type} {names : List String} {field : String} {tree item : Tree}
    {read? : Tree → Option α} {given : List (String × Tree)} {results : List α}
    (inside : item ∈ tree.listed names field) (fields : tree.fields? names = some given)
    (read : required? given field (list? read?) = some results) :
    ∃ result ∈ results, read? item = some result := by
  obtain ⟨value, found, readValue⟩ := Option.bind_eq_some_iff.mp read
  rw [listed, fields, Option.bind_some, found] at inside
  cases value with
  | array items =>
      have found : read? item ∈ results.map some :=
        mapM_eq_some_iff.mp readValue ▸ List.mem_map_of_mem inside
      obtain ⟨result, among, answered⟩ := List.mem_map.mp found
      exact ⟨result, among, answered.symm⟩
  | _ => cases inside

end Json.Tree

open Json.Tree

/-- A column of integers is read with the number that it has for its default. -/
theorem ColumnDeclaration.default_of_ofTree? {tree : Json.Tree} {default : Option Json.Number}
    {column : ColumnDeclaration} (declares : tree.integerDefault? = some default)
    (read : ofTree? tree = some column) :
    ∃ number, default = some number ∧ column.type = .integer ∧
      column.default = some (.number number) := by
  obtain ⟨given, fields, typed, defaultGiven⟩ : ∃ given, tree.fields? fieldNames = some given ∧
      required? given "type" ColumnType.ofTree? = some .integer ∧
      given.lookup "default" = some (.number default) := by
    simp only [integerDefault?, Option.bind_eq_bind, Option.bind_eq_some_iff] at declares
    obtain ⟨given, fields, type, typed, value, defaultGiven, both⟩ := declares
    split at both
    case h_1 => exact ⟨given, fields, typed, Option.some.inj both ▸ defaultGiven⟩
    case h_2 => cases both
  have shallow : (Json.Tree.number default).depth ≤ maxDefaultDepth := Nat.zero_le _
  have number : optional? given "default" none (nullable? default?) =
      (default.map Json.number).map some := by
    rw [optional?, defaultGiven]
    show (default? (.number default)).map some = _
    rw [default?, if_pos shallow, value?]
  simp only [ofTree?, fields, typed, number, Option.bind_eq_bind, Option.bind_some,
    Option.bind_eq_some_iff, Option.map_eq_some_iff, Option.pure_def, Option.some.injEq] at read
  obtain ⟨name, -, nullable, -, primaryKey, -, autoincrement, -, unique, -, found,
    ⟨json, ⟨value, valued, rfl⟩, rfl⟩, size, -, rfl⟩ := read
  exact ⟨value, valued, rfl, rfl⟩

theorem TableDeclaration.exists_column {tree item : Json.Tree} {table : TableDeclaration}
    (inside : item ∈ tree.listed fieldNames "columns") (read : ofTree? tree = some table) :
    ∃ column ∈ table.columns, ColumnDeclaration.ofTree? item = some column := by
  simp only [ofTree?, Option.bind_eq_bind, Option.bind_eq_some_iff, Option.pure_def,
    Option.some.injEq] at read
  obtain ⟨given, fields, name, -, ifNotExists, -, unlogged, -, columns, columnsRead, rfl⟩ := read
  exact exists_mem_of_listed inside fields columnsRead

theorem SchemaFile.exists_table {tree item : Json.Tree} {file : SchemaFile}
    (inside : item ∈ tree.listed ["tables"] "tables") (read : ofTree? tree = some file) :
    ∃ table ∈ file.tables, TableDeclaration.ofTree? item = some table := by
  simp only [ofTree?, Option.bind_eq_bind, Option.bind_eq_some_iff, Option.pure_def,
    Option.some.injEq] at read
  obtain ⟨given, fields, tables, tablesRead, rfl⟩ := read
  exact exists_mem_of_listed inside fields tablesRead

/-- A file that is read has a declared column with the number of its document. -/
theorem SchemaFile.exists_default_of_parse {text : String} {document tree : Json.Tree}
    {default : Option Json.Number} {file : SchemaFile}
    (parsed : Json.Tree.parse? text = some document) (inside : tree ∈ document.columnTrees)
    (declares : tree.integerDefault? = some default) (read : parse text = .ok file) :
    ∃ table ∈ file.tables, ∃ column ∈ table.columns, ∃ number,
      ColumnDeclaration.ofTree? tree = some column ∧ default = some number ∧
        column.type = .integer ∧ column.default = some (.number number) := by
  obtain ⟨tableTree, inDocument, inTable⟩ := List.mem_flatMap.mp inside
  have fileRead : ofTree? document = some file := by
    rw [parse, parsed, Option.bind_some] at read
    cases found : ofTree? document with
    | none => simp [found] at read
    | some other => simpa [found] using read
  obtain ⟨table, amongTables, tableRead⟩ := exists_table inDocument fileRead
  obtain ⟨column, amongColumns, columnRead⟩ := TableDeclaration.exists_column inTable tableRead
  obtain ⟨number, valued, type, default⟩ :=
    ColumnDeclaration.default_of_ofTree? declares columnRead
  exact ⟨table, amongTables, column, amongColumns, number, columnRead, valued, type, default⟩

/-! ## Statements -/

/-- The statement of a declared column has the value of its number for a default. -/
theorem TableDeclaration.exists_column_of_statement {table : TableDeclaration}
    {create : CreateTable} {declared : ColumnDeclaration} {number : Json.Number}
    (built : table.statement = .ok create) (inside : declared ∈ table.columns)
    (default : declared.default = some (.number number)) :
    ∃ column ∈ create.table.columns, column.name = declared.name ∧ column.type = declared.type ∧
      column.default = some (.fixed number.toValue) := by
  obtain ⟨specs, read, made⟩ := statement_eq_ok built
  obtain ⟨spec, among, specRead⟩ := exists_mem_of_mapM_eq_ok read inside
  have member : ⟨spec, table.name⟩ ∈ create.table.columns := by
    rw [made]
    exact List.mem_map.mpr ⟨spec, among, rfl⟩
  obtain ⟨fixed, defaultRead, same⟩ := bind_pure_eq_ok.mp specRead
  rw [ColumnDeclaration.defaultSpec, default] at defaultRead
  cases defaultRead
  exact ⟨⟨spec, table.name⟩, member, by rw [← same], by rw [← same], by rw [← same]⟩

/-- A line is a part of the lines put together. -/
theorem exists_intercalate (separator : String) {lines : List String} {line : String}
    (inside : line ∈ lines) :
    ∃ front back, separator.intercalate lines = front ++ line ++ back := by
  induction lines with
  | nil => cases inside
  | cons first rest ih =>
    by_cases last : rest = []
    · subst last
      obtain rfl := List.mem_singleton.mp inside
      exact ⟨"", "", by simp⟩
    · rw [String.intercalate_cons_of_ne_nil last]
      rcases List.mem_cons.mp inside with rfl | behind
      · exact ⟨"", separator ++ separator.intercalate rest, by simp [String.append_assoc]⟩
      · obtain ⟨front, back, whole⟩ := ih behind
        exact ⟨first ++ separator ++ front, back, by rw [whole]; simp only [String.append_assoc]⟩

/-- The text of a statement is a part of what is printed. -/
theorem exists_text_of_renderDdl {dialect : Dialect} {statements : List CreateTable}
    {create : CreateTable} {ddl : String} (printed : renderDdl dialect statements = .ok ddl)
    (inside : create ∈ statements) :
    ∃ compiled front back, (Statement.createTable create).compile dialect = .ok compiled ∧
      ddl = front ++ compiled.text ++ back := by
  obtain ⟨compiled, rendered, rfl⟩ := bind_pure_eq_ok.mp printed
  obtain ⟨here, among, compiledHere⟩ := exists_mem_of_mapM_eq_ok rendered inside
  obtain ⟨front, back, whole⟩ := exists_intercalate "\n" (List.mem_map.mpr ⟨here, among, rfl⟩)
  exact ⟨here, front, back, compiledHere, whole⟩

/-- What a schema file is printed as in a dialect, if nothing refuses it. -/
def SchemaFile.printed? (dialect : Dialect) (text : String) : Option String := do
  let file ← (parse text).toOption
  let statements ← file.statements.toOption
  (renderDdl dialect statements).toOption

theorem SchemaFile.printed?_eq_some_iff {dialect : Dialect} {text ddl : String} :
    printed? dialect text = some ddl ↔ ∃ file statements, parse text = .ok file ∧
      file.statements = .ok statements ∧ renderDdl dialect statements = .ok ddl := by
  simp only [printed?, Option.bind_eq_bind, Option.bind_eq_some_iff, toOption_eq_some_iff]
  constructor
  · rintro ⟨file, read, statements, built, printed⟩
    exact ⟨file, statements, read, built, printed⟩
  · rintro ⟨file, statements, read, built, printed⟩
    exact ⟨file, read, statements, built, printed⟩

theorem TableText.Closes.append {rest : List Char} (closes : Closes rest) (after : List Char) :
    Closes (rest ++ after) := by
  obtain ⟨c, behind, rfl, either⟩ := closes
  exact ⟨c, behind ++ after, rfl, either⟩

/-! ## From the document to the definition -/

/-- **An integer default of a schema file is printed as it is written, or the file is refused,
unless it is one of the 1024 integers below the range of 64 bits.** The reader takes the literal of
an integer of any length to its last digit. If a document with this literal for the default of an
integer column is read, passes its check and is printed in a dialect, then the integer is below
`2 ^ 63` and at most 1024 below `-2 ^ 63`, and the definition of the column ends in ` DEFAULT ` and
the digits of the integer, or of `-2 ^ 63` if that is greater. Each of the 1024 integers below the
range is taken by the column, which stores `-2 ^ 63`. -/
theorem SchemaFile.integer_default (negative : Bool) (magnitude : Nat) :
    (∀ steps rest, Json.EndsInteger rest →
      Json.readValue (steps + 1) (Json.integerText negative magnitude ++ rest) =
        some (.number (Json.integerLiteral negative magnitude).value?, rest)) ∧
    (∀ text document tree dialect ddl,
      Json.Tree.parse? text = some document →
      tree ∈ document.columnTrees →
      tree.integerDefault? = some (Json.integerLiteral negative magnitude).value? →
      printed? dialect text = some ddl →
        -2 ^ 63 - 1024 ≤ Json.signedInteger negative magnitude ∧
          Json.signedInteger negative magnitude < 2 ^ 63 ∧
          ∃ declared column front back, ColumnDeclaration.ofTree? tree = some declared ∧
            column.name = declared.name ∧ column.type = .integer ∧
            ddl.toList = front ++ ((Column.heading dialect column).flatMap (·.chars dialect) ++
              (" DEFAULT ".toList ++
                (integerDigits (max (-2 ^ 63) (Json.signedInteger negative magnitude)) ++ back))) ∧
            TableText.Closes back) ∧
    (-2 ^ 63 - 1024 ≤ Json.signedInteger negative magnitude →
      Json.signedInteger negative magnitude < -2 ^ 63 →
        ∃ number, (Json.integerLiteral negative magnitude).value? = some number ∧
          Codec.encode .integer number.toValue = .ok (.int Int64.minValue)) := by
  refine ⟨fun steps rest ends => Json.readValue_integerText ends steps negative magnitude,
    ?printed, ?below⟩
  case printed =>
    intro text document tree dialect ddl parsed inside declares answered
    obtain ⟨file, statements, read, built, printed⟩ := printed?_eq_some_iff.mp answered
    obtain ⟨table, amongTables, declared, amongColumns, number, columnRead, valued, integer,
      default⟩ := exists_default_of_parse parsed inside declares read
    obtain ⟨create, amongStatements, made⟩ := exists_mem_of_mapM_eq_ok built amongTables
    obtain ⟨column, member, name, type, fixed⟩ :=
      TableDeclaration.exists_column_of_statement made amongColumns default
    obtain ⟨compiled, before, after, rendered, whole⟩ :=
      exists_text_of_renderDdl printed amongStatements
    obtain ⟨stored, front, back, encoded, text, closes⟩ :=
      CreateTable.exists_text_default rendered member fixed
    rw [type, integer] at encoded
    obtain ⟨least, greatest, n, rfl, same⟩ := Json.stored_of_integerLiteral valued encoded
    refine ⟨least, greatest, declared, column, before.toList ++ front, back ++ after.toList,
      columnRead, name, type.trans integer, ?_, ?_⟩
    · rw [whole, String.toList_append, String.toList_append, text, Stored.toList_inline,
        Stored.literal, same]
      simp only [List.append_assoc]
    · exact closes.append after.toList
  case below =>
    intro least below
    cases negative with
    | false =>
      rw [Json.signedInteger, if_neg Bool.false_ne_true] at below
      omega
    | true =>
      rw [Json.signedInteger, if_pos rfl] at least below
      exact Json.encode_integerLiteral_below (by omega) (by omega)

/-- The text of a schema file with one column of integers and this default. -/
def SchemaFile.textOfDefault (digits : String) : String :=
  "\x7b\"tables\":[\x7b\"name\":\"t\",\"columns\":[\x7b\"name\":\"n\",\"type\":\"integer\"," ++
    "\"default\":" ++ digits ++ "\x7d]\x7d]\x7d"

/-- The least integer of 64 bits is printed as it is written. -/
theorem SchemaFile.integer_default_least : ∃ document tree ddl,
    Json.Tree.parse? (textOfDefault "-9223372036854775808") = some document ∧
      tree ∈ document.columnTrees ∧
      tree.integerDefault? = some (Json.integerLiteral true (2 ^ 63)).value? ∧
      printed? .sqlite (textOfDefault "-9223372036854775808") = some ddl ∧
      ∃ declared column front back, ColumnDeclaration.ofTree? tree = some declared ∧
        column.name = declared.name ∧ column.type = .integer ∧
        ddl.toList = front ++ ((Column.heading .sqlite column).flatMap (·.chars .sqlite) ++
          (" DEFAULT ".toList ++ ("-9223372036854775808".toList ++ back))) ∧
        TableText.Closes back := by
  have columns : ((Json.Tree.parse? (textOfDefault "-9223372036854775808")).map fun document =>
      document.columnTrees.map (·.integerDefault?)) =
        some [some (Json.integerLiteral true (2 ^ 63)).value?] := by decide +kernel
  have answered : printed? .sqlite (textOfDefault "-9223372036854775808") =
      some "CREATE TABLE \"t\" (\"n\" INTEGER NOT NULL DEFAULT -9223372036854775808);" := by
    decide +kernel
  obtain ⟨document, parsed, declared⟩ := Option.map_eq_some_iff.mp columns
  obtain ⟨tree, inside, declares⟩ := List.mem_map.mp (declared ▸ List.mem_singleton_self _)
  exact ⟨document, tree, _, parsed, inside, declares, answered,
    ((integer_default true (2 ^ 63)).2.1 _ _ _ _ _ parsed inside declares answered).2.2⟩

/-- An integer below the range is printed in both dialects, and as another one. -/
theorem SchemaFile.default_below_range :
    printed? .sqlite (textOfDefault "-9223372036854775809") =
        some "CREATE TABLE \"t\" (\"n\" INTEGER NOT NULL DEFAULT -9223372036854775808);" ∧
      printed? .generic (textOfDefault "-9223372036854775809") =
        some "CREATE TABLE \"t\" (\"n\" INTEGER NOT NULL DEFAULT -9223372036854775808);" ∧
      Json.integerText true 9223372036854775809 = "-9223372036854775809".toList ∧
      Json.signedInteger true 9223372036854775809 = -9223372036854775809 := by
  decide +kernel

end TypedSql
