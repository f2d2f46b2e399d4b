import TypedSql.Statement.Select

/-!
# DELETE statements

A delete sees one table under one alias, and its conditions may use no other alias.
-/

namespace TypedSql

set_option autoImplicit false

/-- A statement that deletes rows. -/
structure Delete where
  declaredName : String
  aliasName : String
  condition : Option Expr := none

namespace Delete

/-- The delete of all rows of a table. -/
def ofTable (table : AliasedTable) : Delete := ⟨table.declaredName, table.aliasName, none⟩

/-- The same delete with one more condition. -/
def restrict (delete : Delete) (condition : Expr) : Except ResolutionError Delete :=
  match condition.columns.find? (·.owner ≠ delete.aliasName) with
  | some column => .error (.outsideDelete column.owner column.name delete.aliasName)
  | none => .ok { delete with condition := some (.conjoin delete.condition condition) }

end Delete

end TypedSql
