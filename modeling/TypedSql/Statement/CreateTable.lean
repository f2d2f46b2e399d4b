import TypedSql.Schema.Table

/-!
# CREATE TABLE statements
-/

namespace TypedSql

set_option autoImplicit false

/-- A statement that creates a table. -/
structure CreateTable where
  table : Table
  ifNotExists : Bool := false
  unlogged : Bool := false
deriving DecidableEq, Repr

end TypedSql
