import TypedSql.Schema.Table

/-!
# Outputs

What a statement returns is a list of outputs, each a column under the name that the result
gives it.
-/

namespace TypedSql

set_option autoImplicit false

/-- A returned column and its name in the result. -/
structure Output where
  name : String
  column : Column
deriving DecidableEq, Repr

/-- A column under its own name. -/
def Output.ofColumn (column : Column) : Output := ⟨column.name, column⟩

end TypedSql
