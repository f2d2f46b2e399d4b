import TypedSql.Expr
import TypedSql.Statement.Output

/-!
# SELECT statements

A select keeps a scope, the dictionary from the aliases it knows to the tables they stand for.
Starting from a table and joining others registers their aliases, and every step that takes
columns refuses those of an unknown alias. The fields are open, so a select can also be put
together by hand; `check` goes through all parts of such a select and stops at the first alias
that the scope does not know.

Conditions that are added one after another are kept as one conjunction.
-/

namespace TypedSql

set_option autoImplicit false

/-! ## Conjunction -/

/-- Adds a condition to the conditions so far, extending a conjunction at its end. -/
def Expr.conjoin : Option Expr → Expr → Expr
  | none, condition => condition
  | some (.junction .and members), condition => .all (members ++ [condition])
  | some other, condition => .all [other, condition]

/-! ## The parts of a select -/

/-- The kinds of joins. -/
inductive JoinKind where
  | inner
  | left
  | right
deriving DecidableEq, Repr

/-- A kind of join in SQL. -/
def JoinKind.symbol : JoinKind → String
  | inner => "INNER JOIN"
  | left => "LEFT OUTER JOIN"
  | right => "RIGHT OUTER JOIN"

/-- A joined table with the condition of the join. -/
structure Join where
  kind : JoinKind
  declaredName : String
  aliasName : String
  on : Expr

/-- The directions of an order. -/
inductive Direction where
  | ascending
  | descending
deriving DecidableEq, Repr

/-- A direction in SQL. -/
def Direction.symbol : Direction → String
  | ascending => "ASC"
  | descending => "DESC"

/-- A column to order by. -/
structure OrderTerm where
  column : Column
  direction : Direction := .ascending
deriving DecidableEq, Repr

/-- A statement that queries tables. -/
structure Select where
  scope : Dictionary String
  projection : List Output
  source : String
  joins : List Join := []
  condition : Option Expr := none
  order : List OrderTerm := []
  limit : Option Int64 := none
  offset : Option Int64 := none

namespace Select

/-! ## Scope -/

/-- Refuses an alias that the scope does not know. -/
def checkAlias (scope : Dictionary String) (aliasName : String) : Except ResolutionError Unit :=
  if scope.contains aliasName then .ok () else .error (.unregistered aliasName)

/-- Refuses a column of an alias that the scope does not know. -/
def checkOwner (scope : Dictionary String) (column : Column) : Except ResolutionError Unit :=
  checkAlias scope column.owner

/-- Refuses an expression at the first of its columns whose alias the scope does not know. -/
def checkExpr (scope : Dictionary String) (e : Expr) : Except ResolutionError Unit :=
  e.columns.forM (checkOwner scope)

/-- Refuses outputs at the first whose alias the scope does not know. -/
def checkOutputs (scope : Dictionary String) (outputs : List Output) :
    Except ResolutionError Unit :=
  outputs.forM fun output => checkOwner scope output.column

/-- Refuses a select at the first alias that its scope does not know. The alias of a join is
looked at before the condition of the join. -/
def check (select : Select) : Except ResolutionError Unit := do
  checkAlias select.scope select.source
  select.joins.forM fun join => do
    checkAlias select.scope join.aliasName
    checkExpr select.scope join.on
  checkOutputs select.scope select.projection
  select.condition.forM (checkExpr select.scope)
  select.order.forM fun term => checkOwner select.scope term.column

/-! ## Building selects -/

/-- The select of all columns of a table. -/
def ofTable (table : AliasedTable) : Select where
  scope := Dictionary.empty.insert table.aliasName table.declaredName
  projection := table.columns.map .ofColumn
  source := table.aliasName

/-- The same select with another projection. -/
def project (select : Select) (outputs : List Output) : Except ResolutionError Select := do
  checkOutputs select.scope outputs
  pure { select with projection := outputs }

/-- The same select with columns under their own names as its projection. -/
def projectColumns (select : Select) (columns : List Column) : Except ResolutionError Select :=
  select.project (columns.map .ofColumn)

/-- The same select with one more joined table, whose alias the condition may use. -/
def join (select : Select) (kind : JoinKind) (table : AliasedTable) (on : Expr) :
    Except ResolutionError Select := do
  if select.scope.contains table.aliasName then .error (.aliasTaken table.aliasName)
  let scope := select.scope.insert table.aliasName table.declaredName
  checkExpr scope on
  pure { select with
    scope := scope
    joins := select.joins ++ [⟨kind, table.declaredName, table.aliasName, on⟩] }

/-- The same select with one more condition. -/
def restrict (select : Select) (condition : Expr) : Except ResolutionError Select := do
  checkExpr select.scope condition
  pure { select with condition := some (.conjoin select.condition condition) }

/-- The same select with one more column to order by. -/
def orderBy (select : Select) (column : Column) (direction : Direction) :
    Except ResolutionError Select := do
  checkOwner select.scope column
  pure { select with order := select.order ++ [⟨column, direction⟩] }

/-- The same select with at most so many rows. -/
def withLimit (select : Select) (limit : Int64) : Select := { select with limit := some limit }

/-- The same select without so many of its first rows. -/
def withOffset (select : Select) (offset : Int64) : Select :=
  { select with offset := some offset }

end Select

end TypedSql
