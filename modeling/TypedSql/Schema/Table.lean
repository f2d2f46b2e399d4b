import TypedSql.Schema.Column
import TypedSql.Schema.Resolution

/-!
# Tables

`Table.define` checks a list of column declarations and makes a table of them. A definition is
refused for its first faulty declaration. A declaration is faulty if its name in SQL is that
of an earlier column, if it is a nullable primary key, if it is an autoincrement column of
another type than `integer`, or if it is a `varchar` above the largest size, in this order.
Only an empty list is refused for having no columns.

A table under an alias has the columns of the table, owned by the alias.
-/

namespace TypedSql

set_option autoImplicit false

/-! ## Faulty definitions -/

/-- What is wrong with the definition of a table. -/
inductive DefinitionFault where
  | duplicate (column : String)
  | collision (column first sqlName : String)
  | nullableKey (column : String)
  | autoincrementType (column : String) (type : ColumnType)
  | oversized (column : String) (size : Nat)
  | noColumns
deriving DecidableEq, Repr

/-- The wording of a fault. -/
def DefinitionFault.reason : DefinitionFault → String
  | duplicate column => "duplicate column '" ++ column ++ "'"
  | collision column first sqlName =>
      "column '" ++ column ++ "' collides with '" ++ first ++ "' as '" ++ sqlName ++ "'"
  | nullableKey column => "column '" ++ column ++ "' cannot be both nullable and a primary key"
  | autoincrementType column type =>
      "autoincrement column '" ++ column ++ "' must be INTEGER, not " ++ type.name
  | oversized column size =>
      "VARCHAR column '" ++ column ++ "' has size " ++ toString size ++ ", maximum is " ++
        toString ColumnType.maxVarcharSize
  | noColumns => "a table needs at least one column"

/-- A refused definition of a table. -/
structure DefinitionError where
  table : String
  fault : DefinitionFault
deriving DecidableEq, Repr

/-- The message of a refused definition. -/
def DefinitionError.message (error : DefinitionError) : String :=
  "invalid definition of table '" ++ error.table ++ "': " ++ error.fault.reason

/-! ## Tables -/

/-- A table as it is declared. -/
structure Table where
  name : String
  columns : List Column
deriving DecidableEq, Repr

/-- A table under the name by which a statement refers to it. -/
structure AliasedTable where
  declaredName : String
  aliasName : String
  columns : List Column
deriving DecidableEq, Repr

/-- The column of a name among the columns of an owner. -/
def findColumn (columns : List Column) (owner name : String) : Except ResolutionError Column :=
  match columns.find? (·.name = name) with
  | some column => .ok column
  | none => .error (.unknownColumn owner name)

namespace Table

/-- What is wrong with a declaration that follows `earlier` ones. -/
def specFault? (earlier : List ColumnSpec) (spec : ColumnSpec) : Option DefinitionFault :=
  match earlier.find? (·.sqlName = spec.sqlName) with
  | some first =>
      if first.name = spec.name then some (.duplicate spec.name)
      else some (.collision spec.name first.name spec.sqlName)
  | none =>
      if spec.nullable && spec.primaryKey then some (.nullableKey spec.name)
      else if spec.autoincrement && spec.type ≠ .integer then
        some (.autoincrementType spec.name spec.type)
      else
        match spec.size with
        | some size =>
            if spec.type = .varchar ∧ ColumnType.maxVarcharSize < size then
              some (.oversized spec.name size)
            else none
        | none => none

/-- The first fault among declarations that follow `earlier` ones. -/
def firstFault? (earlier : List ColumnSpec) : List ColumnSpec → Option DefinitionFault
  | [] => none
  | spec :: rest =>
      match specFault? earlier spec with
      | some fault => some fault
      | none => firstFault? (earlier ++ [spec]) rest

/-- The table of a name and its column declarations, if the definition has no fault. -/
def define (name : String) (specs : List ColumnSpec) : Except DefinitionError Table :=
  match firstFault? [] specs with
  | some fault => .error ⟨name, fault⟩
  | none =>
      if specs.isEmpty then .error ⟨name, .noColumns⟩
      else .ok ⟨name, specs.map fun spec => ⟨spec, name⟩⟩

/-- The column of a name. -/
def column (table : Table) (name : String) : Except ResolutionError Column :=
  findColumn table.columns table.name name

/-- The columns that an insert writes: all that the database does not number itself. -/
def insertShape (table : Table) : List Column := table.columns.filter (!·.autoincrement)

/-- The table under an alias. -/
def as (table : Table) (aliasName : String) : AliasedTable :=
  ⟨table.name, aliasName, table.columns.map (·.withOwner aliasName)⟩

/-- Equality of tables to the application. -/
def equals (first second : Table) : Bool :=
  first.name = second.name && first.columns.length = second.columns.length &&
    (first.columns.zip second.columns).all fun (one, other) => one.equals other

end Table

namespace AliasedTable

/-- The column of a name, owned by the alias. -/
def column (table : AliasedTable) (name : String) : Except ResolutionError Column :=
  findColumn table.columns table.aliasName name

/-- The same table under another alias. -/
def as (table : AliasedTable) (aliasName : String) : AliasedTable :=
  ⟨table.declaredName, aliasName, table.columns.map (·.withOwner aliasName)⟩

/-- Equality of aliased tables to the application. -/
def equals (first second : AliasedTable) : Bool :=
  first.declaredName = second.declaredName && first.aliasName = second.aliasName &&
    first.columns.length = second.columns.length &&
    (first.columns.zip second.columns).all fun (one, other) => one.equals other

end AliasedTable

end TypedSql
