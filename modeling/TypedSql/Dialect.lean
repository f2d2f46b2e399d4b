import TypedSql.ColumnType
import TypedSql.Text.Quoted

/-!
# Dialects

A `Dialect` holds the choices in which databases differ: the quote around identifiers, the
placeholder of a bound value, whether an insert can return rows, the names of the column
types, and the words for keys. A quote inside an identifier is always written twice.
-/

namespace TypedSql

set_option autoImplicit false

/-- The choices of a database. -/
structure Dialect where
  name : String
  quote : Char := '"'
  placeholder : String := "?"
  returning : Bool := false
  typeName : ColumnType → Option Nat → String
  primaryKey : String := "PRIMARY KEY"
  autoincrement : String

namespace Dialect

/-- The characters of a quoted identifier. -/
def identifier (dialect : Dialect) (name : String) : List Char :=
  Quoted.enclose dialect.quote name.toList

/-- A name as an identifier. -/
def quoteIdentifier (dialect : Dialect) (name : String) : String :=
  String.ofList (dialect.identifier name)

/-- SQLite's names of the column types, which are those of its affinities. -/
def sqliteType : ColumnType → String
  | .boolean | .datetime | .integer => "INTEGER"
  | .float => "REAL"
  | .text | .varchar => "TEXT"
  | .binary => "BLOB"

/-- The dialect of SQLite. -/
def sqlite : Dialect where
  name := "sqlite"
  returning := true
  typeName type _ := sqliteType type
  primaryKey := "PRIMARY KEY ASC"
  autoincrement := "AUTOINCREMENT"

/-- The column types of standard SQL. A `varchar` without a size has the largest one. -/
def genericType (size : Option Nat) : ColumnType → String
  | .boolean => "BOOLEAN"
  | .datetime => "TIMESTAMP"
  | .integer => "INTEGER"
  | .float => "DOUBLE PRECISION"
  | .text => "TEXT"
  | .varchar => "VARCHAR(" ++ toString (size.getD ColumnType.maxVarcharSize) ++ ")"
  | .binary => "BLOB"

/-- A dialect close to standard SQL. -/
def generic : Dialect where
  name := "generic"
  typeName type size := genericType size type
  autoincrement := "GENERATED BY DEFAULT AS IDENTITY"

end Dialect

end TypedSql
