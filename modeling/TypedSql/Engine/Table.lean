import TypedSql.Engine.Affinity
import TypedSql.Engine.Error
import TypedSql.Sql.Command

/-!
# Tables of the engine

A table holds its rows in the order of their numbers. A row has one value for every column,
already converted to the affinity of the column. An integer column that is the primary key
shows the number of the row, and the number also answers to names of its own, unless a column
has them.

A new row takes the number that it is given, or the one after the last row. A table that
counts never gives a number twice, also after deletions. Then the values are checked: first
for NULL where it is not allowed, then the number, and then the keys, of which the last
declared is checked first.

Names are compared without regard to the case of ASCII letters.
-/

namespace TypedSql.Engine

set_option autoImplicit false

/-- A name as it is compared. -/
def caseless (name : String) : String := name.toLower

/-- The names of the number of a row. -/
def isNumberName (name : String) : Bool := caseless name ∈ ["rowid", "oid", "_rowid_"]

/-- A column of a table. -/
structure Column where
  name : String
  affinity : Affinity
  notNull : Bool
  default : Stored
deriving DecidableEq, Repr

/-- A column whose values have to differ. -/
structure Key where
  column : Nat
  kind : KeyKind
deriving DecidableEq, Repr

/-- A row with its number. -/
structure Row where
  number : Int64
  cells : List Stored
deriving DecidableEq, Repr

/-- A table with its rows, and the statement that created it. -/
structure Table where
  name : String
  columns : List Column
  numberColumn : Option Nat
  keys : List Key
  counts : Bool
  lastNumber : Int64 := 0
  rows : List Row := []
  definition : String
deriving DecidableEq, Repr

/-! ## Definitions -/

/-- A column as it is defined. -/
def Column.ofDefinition (column : Sql.ColumnDefinition) : Column :=
  ⟨column.name, .ofTypeName column.typeName, column.notNull, column.default⟩

/-- Whether a column shows the numbers of the rows. -/
def showsNumber (column : Sql.ColumnDefinition) : Bool :=
  column.primaryKey && column.typeName.toUpper = "INTEGER"

/-- The keys that a column at an index declares. -/
def declaredKeys (column : Sql.ColumnDefinition) (index : Nat) : List Key :=
  (if column.primaryKey && !showsNumber column then [⟨index, .primary⟩] else []) ++
    (if column.unique then [⟨index, .unique⟩] else [])

namespace Table

/-- The empty table of a definition. -/
def ofDefinition (name definition : String) (columns : List Sql.ColumnDefinition) : Table where
  name := name
  columns := columns.map .ofDefinition
  numberColumn := columns.findIdx? showsNumber
  keys := (columns.zipIdx.map fun (column, index) => declaredKeys column index).flatten
  counts := columns.any (·.autoincrement)
  definition := definition

/-- The index of the column of a name. -/
def columnIndex? (table : Table) (name : String) : Option Nat :=
  table.columns.findIdx? fun column => caseless column.name = caseless name

/-- The name of the column at an index. -/
def columnName (table : Table) (index : Nat) : String :=
  (table.columns[index]?.map (·.name)).getD ""

/-! ## New rows -/

/-- What a value of a new row becomes: its number, or the cell of a column. -/
inductive Target where
  | number
  | cell (index : Nat)
deriving DecidableEq, Repr

/-- The target of a name. -/
def target? (table : Table) (name : String) : Option Target :=
  match table.columnIndex? name with
  | some index => if table.numberColumn = some index then some .number else some (.cell index)
  | none => if isNumberName name then some .number else none

/-- The greatest number of a row. -/
def maxNumber : Int64 := Int64.maxValue

/-- The least positive number that ascending rows leave free. -/
def firstFree (rows : List Row) : Int64 :=
  rows.foldl (fun number row => if row.number = number then number + 1 else number) 1

/-- The number of a new row that is given none. -/
def freshNumber (table : Table) : Except Refusal Int64 :=
  let last := (table.rows.getLast?.map (·.number)).getD 0
  let next := if table.rows.isEmpty then 1 else last + 1
  if table.counts then
    if last = maxNumber ∨ table.lastNumber = maxNumber then .error .full
    else .ok (max next (table.lastNumber + 1))
  else if last = maxNumber then .ok (firstFree table.rows)
  else .ok next

/-- The number of a new row from the value that it is given, if any. -/
def numberOf (table : Table) (given : Stored) : Except Refusal Int64 :=
  match Affinity.integer.convert given with
  | .null => table.freshNumber
  | .int number => .ok number
  | _ => .error .mismatch

/-- The value that is given for a target, the last one if there are several. -/
def given? (values : List (Target × Stored)) (target : Target) : Option Stored :=
  values.reverse.lookup target

/-- The cell of a column in a new row. -/
def newCell (table : Table) (number : Int64) (values : List (Target × Stored)) (column : Column)
    (index : Nat) : Stored :=
  if table.numberColumn = some index then .int number
  else column.affinity.convert ((given? values (.cell index)).getD column.default)

/-- The cells of a new row. -/
def newCells (table : Table) (number : Int64) (values : List (Target × Stored)) : List Stored :=
  table.columns.zipIdx.map fun (column, index) => table.newCell number values column index

/-- Refuses cells that are NULL where it is not allowed. -/
def checkMissing (table : Table) (cells : List Stored) : Except Refusal Unit :=
  match (table.columns.zip cells).find? fun (column, cell) => column.notNull && cell = .null with
  | some (column, _) => .error (.missingValue table.name column.name)
  | none => .ok ()

/-- The name of the number of a row in messages. -/
def numberName (table : Table) : String :=
  (table.numberColumn.map table.columnName).getD "rowid"

/-- Refuses a number that a row has already. -/
def checkNumber (table : Table) (number : Int64) : Except Refusal Unit :=
  if table.rows.any (·.number = number) then
    let kind : KeyKind := if table.numberColumn.isSome then .primary else .number
    .error (.notUnique kind table.name table.numberName)
  else .ok ()

/-- Whether two cells have the same value other than NULL. -/
def sameCell (first second : Option Stored) : Bool :=
  match first, second with
  | some first, some second => compareUnder? .blob first second = some .eq
  | _, _ => false

/-- Whether a row has the value of a key that the cells have. -/
def clashes (cells : List Stored) (key : Key) (row : Row) : Bool :=
  sameCell cells[key.column]? row.cells[key.column]?

/-- Refuses cells whose value of a key is taken. -/
def checkKeys (table : Table) (cells : List Stored) : Except Refusal Unit :=
  match table.keys.reverse.find? fun key => table.rows.any (clashes cells key) with
  | some key => .error (.notUnique key.kind table.name (table.columnName key.column))
  | none => .ok ()

/-- Puts a row at its place among ascending rows. -/
def placeRow (row : Row) : List Row → List Row
  | [] => [row]
  | first :: rest =>
      if row.number < first.number then row :: first :: rest else first :: placeRow row rest

/-- Inserts a row of values for targets, and returns it. -/
def insertRow (table : Table) (values : List (Target × Stored)) : Except Refusal (Row × Table) := do
  let number ← table.numberOf ((given? values .number).getD .null)
  let cells := table.newCells number values
  table.checkMissing cells
  table.checkNumber number
  table.checkKeys cells
  let row : Row := ⟨number, cells⟩
  let lastNumber := if table.counts then max table.lastNumber number else table.lastNumber
  pure (row, { table with rows := placeRow row table.rows, lastNumber := lastNumber })

/-- Inserts rows one after another. -/
def insertRows (table : Table) : List (List (Target × Stored)) → Except Refusal (List Row × Table)
  | [] => .ok ([], table)
  | values :: more => do
      let (row, table) ← table.insertRow values
      let (rows, table) ← table.insertRows more
      pure (row :: rows, table)

end Table

end TypedSql.Engine
