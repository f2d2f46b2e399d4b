import TypedSql.Json.Fields
import TypedSql.Json.Printer
import TypedSql.Json.Reader
import TypedSql.Render.Statement

/-!
# Schema files

A schema file is a JSON document that lists tables and their columns. Reading one gives its
declarations as they stand, `statements` turns them into statements that create the tables,
and `renderDdl` writes those as SQL, one line a table.

A default in a file is a scalar. Integers of 64 bits become integers and all other numbers
floats. A text is read as an RFC 3339 date-time in a `datetime` column and kept as it is in
the others.
-/

namespace TypedSql

set_option autoImplicit false

/-! ## Declarations -/

/-- A column as a schema file declares it. -/
structure ColumnDeclaration where
  name : String
  type : ColumnType
  nullable : Bool := false
  primaryKey : Bool := false
  autoincrement : Bool := false
  unique : Bool := false
  default : Option Json := none
  size : Option Nat := none

/-- A table as a schema file declares it. -/
structure TableDeclaration where
  name : String
  ifNotExists : Bool := false
  unlogged : Bool := false
  columns : List ColumnDeclaration

/-- The tables that a schema file declares. -/
structure SchemaFile where
  tables : List TableDeclaration

/-! ## Failures -/

/-- Why a default of a schema file is no value. -/
inductive DefaultFault where
  | notScalar
  | notDatetime (text : String) (fault : Rfc3339.Fault)
deriving DecidableEq, Repr

/-- The wording of a fault. -/
def DefaultFault.reason : DefaultFault → String
  | notScalar => "defaults must be scalar"
  | notDatetime text fault => "'" ++ text ++ "' is not an RFC 3339 datetime: " ++ fault.message

/-- Why a schema file cannot be used. -/
inductive SchemaFileError where
  | malformed
  | invalidDefault (table column : String) (fault : DefaultFault)
  | definition (error : DefinitionError)
  | rendering (error : RenderError)
deriving DecidableEq, Repr

/-- The message of an unusable schema file. -/
def SchemaFileError.message : SchemaFileError → String
  | malformed => "invalid schema file: "
  | invalidDefault table column fault =>
      "invalid default for " ++ table ++ "." ++ column ++ ": " ++ fault.reason
  | definition error => error.message
  | rendering error => error.message

/-! ## Reading -/

namespace ColumnType

/-- The name of a type in schema files. -/
def fileName : ColumnType → String
  | boolean => "boolean"
  | datetime => "datetime"
  | integer => "integer"
  | float => "float"
  | text => "text"
  | varchar => "varchar"
  | binary => "binary"

/-- The type of a name in schema files. -/
def ofFileName? (name : String) : Option ColumnType :=
  [boolean, datetime, integer, float, text, varchar, binary].find? (·.fileName = name)

/-- Reads a type: its name, or an object whose only member has that name and is null. -/
def ofTree? : Json.Tree → Option ColumnType
  | .string name => name.bind ofFileName?
  | .object [(key, .null)] => key.bind ofFileName?
  | _ => none

end ColumnType

namespace ColumnDeclaration

/-- The fields of a column in their order. -/
def fieldNames : List String :=
  ["name", "type", "nullable", "primaryKey", "autoincrement", "unique", "default", "size"]

/-- How deeply a default may be nested. It stands five levels deep in a document of at most
127 levels. -/
def maxDefaultDepth : Nat := 122

/-- Reads a default. -/
def default? (tree : Json.Tree) : Option Json :=
  if tree.depth ≤ maxDefaultDepth then tree.value? else none

/-- Reads a column. -/
def ofTree? (tree : Json.Tree) : Option ColumnDeclaration := do
  let given ← tree.fields? fieldNames
  let name ← Json.Tree.required? given "name" Json.Tree.string?
  let type ← Json.Tree.required? given "type" ColumnType.ofTree?
  let nullable ← Json.Tree.optional? given "nullable" false Json.Tree.bool?
  let primaryKey ← Json.Tree.optional? given "primaryKey" false Json.Tree.bool?
  let autoincrement ← Json.Tree.optional? given "autoincrement" false Json.Tree.bool?
  let unique ← Json.Tree.optional? given "unique" false Json.Tree.bool?
  let default ← Json.Tree.optional? given "default" none (Json.Tree.nullable? default?)
  let size ← Json.Tree.optional? given "size" none (Json.Tree.nullable? Json.Tree.natural32?)
  pure ⟨name, type, nullable, primaryKey, autoincrement, unique, default, size⟩

/-- A column as JSON, without an absent default or size. -/
def toJson (column : ColumnDeclaration) : Json :=
  .object ([("name", .string column.name), ("type", .string column.type.fileName),
    ("nullable", .bool column.nullable), ("primaryKey", .bool column.primaryKey),
    ("autoincrement", .bool column.autoincrement), ("unique", .bool column.unique)] ++
    (column.default.map (("default", ·))).toList ++
    (column.size.map fun size => ("size", Json.number (.integer size))).toList)

end ColumnDeclaration

namespace TableDeclaration

/-- The fields of a table in their order. -/
def fieldNames : List String := ["name", "ifNotExists", "unlogged", "columns"]

/-- Reads a table. -/
def ofTree? (tree : Json.Tree) : Option TableDeclaration := do
  let given ← tree.fields? fieldNames
  let name ← Json.Tree.required? given "name" Json.Tree.string?
  let ifNotExists ← Json.Tree.optional? given "ifNotExists" false Json.Tree.bool?
  let unlogged ← Json.Tree.optional? given "unlogged" false Json.Tree.bool?
  let columns ← Json.Tree.required? given "columns" (Json.Tree.list? ColumnDeclaration.ofTree?)
  pure ⟨name, ifNotExists, unlogged, columns⟩

/-- A table as JSON. -/
def toJson (table : TableDeclaration) : Json :=
  .object [("name", .string table.name), ("ifNotExists", .bool table.ifNotExists),
    ("unlogged", .bool table.unlogged),
    ("columns", .array (table.columns.map (·.toJson)))]

end TableDeclaration

namespace SchemaFile

/-- Reads a schema file from its document. -/
def ofTree? (tree : Json.Tree) : Option SchemaFile := do
  let given ← tree.fields? ["tables"]
  let tables ← Json.Tree.required? given "tables" (Json.Tree.list? TableDeclaration.ofTree?)
  pure ⟨tables⟩

/-- A schema file as JSON. -/
def toJson (file : SchemaFile) : Json :=
  .object [("tables", .array (file.tables.map (·.toJson)))]

/-- Reads a schema file from its text. -/
def parse (text : String) : Except SchemaFileError SchemaFile :=
  match (Json.Tree.parse? text).bind ofTree? with
  | some file => .ok file
  | none => .error .malformed

end SchemaFile

/-! ## Statements -/

/-- The value of a number in a schema file. -/
def Json.Number.toValue : Json.Number → Value
  | integer n =>
      if Int64.minValue.toInt ≤ n ∧ n ≤ Int64.maxValue.toInt then .integer (Int64.ofInt n)
      else .float (.ofInt n)
  | float x => .float x

/-- The value of a default in a column of a type. -/
def ColumnType.defaultValue (type : ColumnType) : Json → Except DefaultFault Value
  | .null => .ok .null
  | .bool b => .ok (.bool b)
  | .number n => .ok n.toValue
  | .string s =>
      if type = .datetime then
        match Rfc3339.parse s with
        | .ok instant => .ok (.datetime instant)
        | .error fault => .error (.notDatetime s fault)
      else .ok (.text s)
  | .array _ => .error .notScalar
  | .object _ => .error .notScalar

/-- The default of a declared column. -/
def ColumnDeclaration.defaultSpec (table : String) (column : ColumnDeclaration) :
    Except SchemaFileError (Option Default) :=
  match column.default with
  | none => .ok none
  | some json =>
      match column.type.defaultValue json with
      | .ok value => .ok (some (.fixed value))
      | .error fault => .error (.invalidDefault table column.name fault)

/-- The column declaration that a schema file stands for. -/
def ColumnDeclaration.spec (table : String) (column : ColumnDeclaration) :
    Except SchemaFileError ColumnSpec := do
  let default ← column.defaultSpec table
  pure ⟨column.name, column.type, column.nullable, column.primaryKey, column.autoincrement,
    column.unique, default, column.size⟩

/-- The statement that creates a declared table. -/
def TableDeclaration.statement (table : TableDeclaration) : Except SchemaFileError CreateTable := do
  let specs ← table.columns.mapM (·.spec table.name)
  let defined ← (Table.define table.name specs).mapError .definition
  pure ⟨defined, table.ifNotExists, table.unlogged⟩

/-- The statements that create the declared tables. -/
def SchemaFile.statements (file : SchemaFile) : Except SchemaFileError (List CreateTable) :=
  file.tables.mapM (·.statement)

/-- The text of statements that create tables, one a line. -/
def renderDdl (dialect : Dialect) (statements : List CreateTable) :
    Except RenderError String := do
  let compiled ← statements.mapM fun statement => (Statement.createTable statement).compile dialect
  pure ("\n".intercalate (compiled.map (·.text)))

end TypedSql
