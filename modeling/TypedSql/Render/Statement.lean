import TypedSql.Render.Expr
import TypedSql.Statement.CreateTable
import TypedSql.Statement.Delete
import TypedSql.Statement.Insert

/-!
# Rendering statements

Every statement ends in a semicolon. Table names and aliases are written as they are declared,
and the names of columns and outputs in snake case. A create statement writes its defaults
into the text and binds nothing. An insert binds one value for every written column of every
record, a missing one as NULL. A select binds the literals of its conditions, its limit and
its offset, and a delete the literals of its condition.
-/

namespace TypedSql

set_option autoImplicit false

open Fragment

/-- A statement of any kind. -/
inductive Statement where
  | createTable (statement : CreateTable)
  | insert (statement : Insert)
  | select (statement : Select)
  | delete (statement : Delete)

/-- A word that is written only on a condition. -/
def Fragment.wordIf (condition : Bool) (text : String) : List Fragment :=
  if condition then [word text] else []

/-! ## Creating tables -/

namespace Column

/-- The default that a column definition writes: a fixed one. -/
def defaultFragments (table : String) (column : Column) : Except RenderError (List Fragment) :=
  match column.default with
  | some (.fixed value) => do
      let stored ← encodeAt (.default table column.name) column.type value
      pure [word " DEFAULT ", inline stored]
  | _ => .ok []

/-- The clauses of a column definition between its type and its default. -/
def keyFragments (dialect : Dialect) (column : Column) : List Fragment :=
  wordIf column.primaryKey (" " ++ dialect.primaryKey) ++
    wordIf column.autoincrement (" " ++ dialect.autoincrement) ++
    wordIf (!column.nullable && !column.primaryKey && !column.autoincrement) " NOT NULL" ++
    wordIf (column.unique && !column.primaryKey) " UNIQUE"

/-- The definition of a column. -/
def definition (dialect : Dialect) (table : String) (column : Column) :
    Except RenderError (List Fragment) := do
  let default ← column.defaultFragments table
  pure ([identifier column.sqlName, word (" " ++ dialect.typeName column.type column.size)] ++
    column.keyFragments dialect ++ default)

end Column

/-- The fragments of a statement that creates a table. -/
def CreateTable.fragments (dialect : Dialect) (create : CreateTable) :
    Except RenderError (List Fragment) := do
  let definitions ← create.table.columns.mapM (·.definition dialect create.table.name)
  pure ([word "CREATE "] ++ wordIf create.unlogged "UNLOGGED " ++ [word "TABLE "] ++
    wordIf create.ifNotExists "IF NOT EXISTS " ++
    [identifier create.table.name, word " ("] ++ separated ", " definitions ++ [word ");"])

/-! ## Inserting records -/

namespace Insert

/-- The bound value of one cell. -/
def cellFragments (row : Nat) (record : Record) (column : Column) :
    Except RenderError (List Fragment) := do
  let value := (record.get? column.name).getD .null
  let stored ← encodeAt (.cell row column.name) column.type value
  pure [bound stored]

/-- The bound values of one record in parentheses. -/
def rowFragments (shape : List Column) (row : Nat) (record : Record) :
    Except RenderError (List Fragment) := do
  let cells ← shape.mapM (cellFragments row record)
  pure ([word "("] ++ separated "," cells ++ [word ")"])

/-- The bound values of records, counted from `row`. -/
def rowsFragments (shape : List Column) (row : Nat) :
    List Record → Except RenderError (List (List Fragment))
  | [] => .ok []
  | record :: rest => do
      let first ← rowFragments shape row record
      let others ← rowsFragments shape (row + 1) rest
      pure (first :: others)

/-- The columns and the values of an insert. -/
def valuesFragments (insert : Insert) : Except RenderError (List Fragment) :=
  let shape := insert.table.insertShape
  if shape.isEmpty then
    if 1 < insert.records.length then .error (.empty (.noInsertableColumns insert.table.name))
    else .ok [word " DEFAULT VALUES"]
  else do
    let rows ← rowsFragments shape 0 insert.records
    pure ([word " ("] ++ separated "," (shape.map fun column => [identifier column.sqlName]) ++
      [word ") VALUES "] ++ separated "," rows)

/-- The columns that an insert returns, where the dialect allows it. -/
def returningFragments (dialect : Dialect) (outputs : List Output) : List Fragment :=
  if dialect.returning && !outputs.isEmpty then
    word " RETURNING " :: separated ", " (outputs.map fun output =>
      [identifier output.column.sqlName, word " AS ", identifier (snakeCase output.name)])
  else []

/-- The fragments of a statement that inserts records. -/
def fragments (dialect : Dialect) (insert : Insert) : Except RenderError (List Fragment) :=
  if insert.records.isEmpty then .error (.empty (.noRecords insert.table.name))
  else do
    let values ← insert.valuesFragments
    pure ([word "INSERT INTO ", identifier insert.table.name] ++ values ++
      returningFragments dialect insert.returnShape ++ [word ";"])

end Insert

/-! ## Querying and deleting -/

/-- The condition of a statement after its keyword. -/
def whereFragments : Option Expr → Except RenderError (List Fragment)
  | none => .ok []
  | some condition => do
      let inside ← condition.fragments
      pure (word " WHERE " :: inside)

namespace Select

/-- The projection of a select. -/
def projectionFragments (outputs : List Output) : List Fragment :=
  separated ", " (outputs.map fun output =>
    output.column.fragments ++ [word " AS ", identifier (snakeCase output.name)])

/-- A joined table with its condition. -/
def joinFragments (join : Join) : Except RenderError (List Fragment) := do
  let on ← join.on.fragments
  pure ([word (" " ++ join.kind.symbol ++ " "), identifier join.declaredName, word " AS ",
    identifier join.aliasName, word " ON "] ++ on)

/-- The order of a select. -/
def orderFragments (terms : List OrderTerm) : List Fragment :=
  if terms.isEmpty then []
  else word " ORDER BY " :: separated ", " (terms.map fun term =>
    term.column.fragments ++ [word (" " ++ term.direction.symbol)])

/-- A number of rows after its keyword, bound as an integer. -/
def boundFragments (keyword : String) (place : CodecPlace) :
    Option Int64 → Except RenderError (List Fragment)
  | none => .ok []
  | some rows => do
      let stored ← encodeAt place .integer (.integer rows)
      pure [word keyword, bound stored]

/-- The table that the source of a select stands for. -/
def sourceTable (select : Select) : String := (select.scope.get? select.source).getD select.source

/-- The fragments of a select that passes its check. -/
def checkedFragments (select : Select) : Except RenderError (List Fragment) := do
  let joins ← select.joins.mapM joinFragments
  let condition ← whereFragments select.condition
  let limit ← boundFragments " LIMIT " .limit select.limit
  let offset ← boundFragments " OFFSET " .offset select.offset
  pure ([word "SELECT "] ++ projectionFragments select.projection ++
    [word " FROM ", identifier select.sourceTable, word " AS ", identifier select.source] ++
    joins.flatten ++ condition ++ orderFragments select.order ++ limit ++ offset ++
    [word ";"])

/-- The fragments of a statement that queries tables. -/
def fragments (select : Select) : Except RenderError (List Fragment) :=
  match select.check with
  | .error error => .error (.resolution error)
  | .ok () =>
      if select.projection.isEmpty then .error (.empty (.noProjection select.source))
      else select.checkedFragments

end Select

/-- The fragments of a statement that deletes rows. -/
def Delete.fragments (delete : Delete) : Except RenderError (List Fragment) := do
  let condition ← whereFragments delete.condition
  pure ([word "DELETE FROM ", identifier delete.declaredName, word " AS ",
    identifier delete.aliasName] ++ condition ++ [word ";"])

/-! ## Statements of any kind -/

/-- The fragments of a statement. -/
def Statement.fragments (dialect : Dialect) : Statement → Except RenderError (List Fragment)
  | createTable statement => statement.fragments dialect
  | insert statement => statement.fragments dialect
  | select statement => statement.fragments
  | delete statement => statement.fragments

/-- The text and the parameters of a statement. -/
def Statement.compile (dialect : Dialect) (statement : Statement) : Except RenderError Compiled :=
  (statement.fragments dialect).map (.ofFragments dialect)

end TypedSql
