import TypedSql.Engine.Condition

/-!
# Databases of the engine

A database is a dictionary of tables under their names without case. Running a statement
reads its text, binds the parameters to its placeholders, and gives the rows that it returns,
the number of rows that it removed, and the database after it. A refused statement gives
nothing but its refusal, so it changes nothing.

A join combines the rows so far with those of one more table, pair by pair. An outer join also
keeps the rows of one side without a partner. Then come the condition, the order, and the part
between offset and limit. The condition of an inner join may look at tables that are joined
later, unless there is a right join, and counts then as a condition of the whole query.
-/

namespace TypedSql.Engine

set_option autoImplicit false

/-- What the engine answers to a statement. -/
structure Reply where
  rows : List (List Stored) := []
  removed : Nat := 0
deriving DecidableEq, Repr

/-- The tables of a database. -/
abbrev Database := Dictionary Table

namespace Database

/-- The table of a name. -/
def table (database : Database) (name : String) : Except Refusal Table :=
  match database.get? (caseless name) with
  | some table => .ok table
  | none => .error (.noSuchTable name)

/-- The database with another content of a table, or with one more table. -/
def put (database : Database) (table : Table) : Database :=
  database.insert (caseless table.name) table

/-! ## Creating tables -/

/-- Whether a name is reserved for the engine. -/
def isReserved (name : String) : Bool := (caseless name).startsWith "sqlite_"

/-- The database with a new table. The faults are sought in the order of the text. -/
def create (database : Database) (name definition : String) (ifNotExists : Bool)
    (columns : List Sql.ColumnDefinition) (fault : Option Sql.SyntaxError) :
    Except Refusal Database :=
  if isReserved name then .error (.reservedName name)
  else if database.contains (caseless name) then
    if !ifNotExists then .error (.tableExists name)
    else
      match fault with
      | some fault => .error (.malformed fault)
      | none => .ok database
  else if 1 < (columns.filter (·.primaryKey)).length then .error (.secondPrimaryKey name)
  else
    match fault with
    | some fault => .error (.malformed fault)
    | none => .ok (database.put (.ofDefinition name definition columns))

/-! ## Inserting rows -/

/-- The targets of the columns of an insertion. -/
def targets (table : Table) (writtenName : String) (columns : List String) :
    Except Refusal (List Table.Target) :=
  columns.mapM fun column =>
    match table.target? column with
    | some target => .ok target
    | none => .error (.noColumnNamed writtenName column)

/-- The returned value of a row. A name that is no column is the text of itself. -/
def returnedValue (table : Table) (row : Row) (name : String) : Stored :=
  match table.columnIndex? name with
  | some index => row.cells[index]?.getD .null
  | none => if isNumberName name then .int row.number else .text name

/-- The returned values of rows, if any value is returned. -/
def returnedRows (table : Table) (names : List String) (rows : List Row) : List (List Stored) :=
  if names.isEmpty then [] else rows.map fun row => names.map (returnedValue table row)

/-- Inserts rows of parameters and returns values of the new rows. -/
def insertRows (database : Database) (parameters : List Stored) (name : String)
    (columns : List String) (rows : List (List Nat)) (returned : List String) :
    Except Refusal (Reply × Database) := do
  let table ← database.table name
  let targets ← targets table name columns
  let values := rows.map fun row =>
    targets.zip (row.map fun index => parameters[index]?.getD .null)
  let (rows, table) ← table.insertRows values
  pure ({ rows := returnedRows table returned rows }, database.put table)

/-! ## Queries -/

/-- Combines rows with the rows of one more table that satisfy a condition with them. -/
def joinRows (kind : JoinKind) (on : Condition) (leftAbsent rightAbsent : List Stored)
    (left right : List (List Stored)) : List (List Stored) :=
  let partners (row : List Stored) : List (List Stored) :=
    (right.map (row ++ ·)).filter on.isSatisfied
  match kind with
  | .inner => left.flatMap partners
  | .left => left.flatMap fun row =>
      if (partners row).isEmpty then [row ++ rightAbsent] else partners row
  | .right => left.flatMap partners ++
      (right.filter fun other => left.all fun row => !on.isSatisfied (row ++ other)).map
        (leftAbsent ++ ·)

/-- A joined table with its resolved condition. -/
structure ResolvedJoin where
  kind : JoinKind
  visible : Visible
  on : Condition

/-- Joins the rows of more and more tables. -/
def joinAll (absent : List Stored) (rows : List (List Stored)) :
    List ResolvedJoin → List (List Stored)
  | [] => rows
  | join :: rest =>
      joinAll (absent ++ join.visible.absent)
        (joinRows join.kind join.on absent join.visible.absent rows join.visible.rows) rest

/-- Splits joins into joins whose conditions look at no later table, and the conditions that
do. Of the latter only those of inner joins without right joins around them are allowed. -/
def settleJoins (hasRight : Bool) (width : Nat) :
    List ResolvedJoin → Except Refusal (List ResolvedJoin × List Condition)
  | [] => .ok ([], [])
  | join :: rest => do
      let width := width + join.visible.width
      let (joins, conditions) ← settleJoins hasRight width rest
      if !join.on.reaches width then pure (join :: joins, conditions)
      else if join.kind = .inner ∧ !hasRight then
        pure ({ join with on := .value (ofTruth (some true)) } :: joins, join.on :: conditions)
      else .error .earlyReference

/-- A place in the rows to order by. -/
structure ResolvedOrder where
  place : Place
  direction : Direction

/-- The value at a place. -/
def valueAt (row : List Stored) (place : Place) : Stored := row[place.index]?.getD .null

/-- How an order ranks two rows. -/
def compareRows (order : List ResolvedOrder) (first second : List Stored) : Ordering :=
  order.foldr (fun term later =>
    let ranks := compareStored (valueAt first term.place) (valueAt second term.place)
    (match term.direction with
      | .ascending => ranks
      | .descending => ranks.swap).then later) .eq

/-- Rows in an order, those of the same rank as they were. -/
def sortRows (order : List ResolvedOrder) (rows : List (List Stored)) : List (List Stored) :=
  rows.mergeSort fun first second => compareRows order first second ≠ .gt

/-- The rows between an offset and a limit. A negative limit is none, and a negative offset
zero. -/
def slice (limit offset : Option Stored) (rows : List (List Stored)) : List (List Stored) :=
  let after := match offset with
    | some (.int n) => rows.drop n.toInt.toNat
    | _ => rows
  match limit with
  | some (.int n) => if n < 0 then after else after.take n.toInt.toNat
  | _ => after

/-- The table of a source under its alias. -/
def visible (database : Database) (source : Sql.Source) : Except Refusal Visible := do
  let table ← database.table source.table
  pure ⟨source.aliasName, table⟩

/-- The condition of an optional term, which holds if there is none. -/
def resolveCondition (scope : Scope) (parameters : List Stored) :
    Option Sql.Term → Condition.Resolving Condition
  | some term => Condition.ofTerm scope parameters term
  | none => pure (.value (ofTruth (some true)))

/-- Resolves the conditions of joins. -/
def resolveJoins (scope : Scope) (parameters : List Stored) :
    List (Sql.JoinClause × Visible) → Condition.Resolving (List ResolvedJoin)
  | [] => pure []
  | (join, visible) :: rest => do
      let on ← Condition.ofTerm scope parameters join.on
      let others ← resolveJoins scope parameters rest
      pure (⟨join.kind, visible, on⟩ :: others)

/-- The rows of a query. Names are resolved in the projection first, then in the condition,
the conditions of the joins, and the order. -/
def query (database : Database) (parameters : List Stored) (query : Sql.Query) :
    Except Refusal Reply := do
  let source ← database.visible query.source
  let joined ← query.joins.mapM fun join => database.visible join.source
  let scope : Scope := source :: joined
  let projection ← query.projection.mapM fun (qualifier, name) => scope.column qualifier name
  let (condition, joins) ← Condition.complete do
    let condition ← resolveCondition scope parameters query.condition
    let joins ← resolveJoins scope parameters (query.joins.zip joined)
    pure (condition, joins)
  let order ← query.order.mapM fun clause => do
    let place ← scope.column clause.qualifier clause.name
    pure (⟨place, clause.direction⟩ : ResolvedOrder)
  let hasRight := joins.any (·.kind = .right)
  let (joins, conditions) ← settleJoins hasRight source.width joins
  let rows := (joinAll source.absent source.rows joins).filter fun row =>
    (condition :: conditions).all (·.isSatisfied row)
  let parameter? (index : Option Nat) : Option Stored := index.bind (parameters[·]?)
  let rows := slice (parameter? query.limit) (parameter? query.offset) (sortRows order rows)
  pure { rows := rows.map fun row => projection.map (valueAt row) }

/-! ## Deletions -/

/-- Removes the rows of a table that satisfy a condition. -/
def delete (database : Database) (parameters : List Stored) (source : Sql.Source)
    (condition : Option Sql.Term) : Except Refusal (Reply × Database) := do
  let visible ← database.visible source
  let condition ← Condition.complete (resolveCondition [visible] parameters condition)
  let table := visible.table
  let kept := table.rows.filter fun row => !condition.isSatisfied (Visible.cells row)
  pure ({ removed := table.rows.length - kept.length }, database.put { table with rows := kept })

/-! ## Statements -/

/-- A value as it is bound to a placeholder, where NaN is NULL. -/
def bind : Stored → Stored
  | .float x => if x.isNaN then .null else .float x
  | value => value

/-- Runs the statement of a text with its parameters. -/
def run (database : Database) (text : String) (parameters : List Stored) :
    Except Refusal (Reply × Database) :=
  let parameters := parameters.map bind
  match Sql.Command.ofText text with
  | .error fault => .error (.malformed fault)
  | .ok (.create name ifNotExists columns fault) =>
      (database.create name text ifNotExists columns fault).map fun database => ({}, database)
  | .ok (.insert name columns rows returned) =>
      database.insertRows parameters name columns rows returned
  | .ok (.query query) => (database.query parameters query).map fun reply => (reply, database)
  | .ok (.delete source condition) => database.delete parameters source condition

end Database

end TypedSql.Engine
