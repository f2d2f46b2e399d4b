/-!
# Column types

The seven types a column can be declared with. They name what an application stores, and a
dialect maps each of them to a type of its database.
-/

namespace TypedSql

set_option autoImplicit false

/-- The type of the values of a column. -/
inductive ColumnType where
  | boolean
  | datetime
  | integer
  | float
  | text
  | varchar
  | binary
deriving DecidableEq, Repr

namespace ColumnType

/-- The name of a type in messages. -/
def name : ColumnType → String
  | boolean => "BOOLEAN"
  | datetime => "DATETIME"
  | integer => "INTEGER"
  | float => "FLOAT"
  | text => "TEXT"
  | varchar => "VARCHAR"
  | binary => "BINARY"

/-- Whether the values of a type are texts. -/
def isTextual (type : ColumnType) : Bool := type = text ∨ type = varchar

/-- The largest size that a `varchar` column may declare, and the size it has without one. -/
def maxVarcharSize : Nat := 255

end ColumnType

end TypedSql
