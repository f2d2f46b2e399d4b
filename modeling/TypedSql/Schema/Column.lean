import TypedSql.Text.SnakeCase
import TypedSql.Value

/-!
# Columns

A `ColumnSpec` is the declaration of a column: its name, its type, the flags of its keys and
constraints, its default and its size. A `Column` is a declaration that belongs to an owner,
the table it was defined in or the alias under which a query sees that table. Columns are
written in SQL under the snake case of their names.

A default is a fixed value or a producer that is asked for a new value each time. Producers
are known by identity, so two of them are equal when they are the same one.
-/

namespace TypedSql

set_option autoImplicit false

/-- The identity of a producer of default values. -/
structure ProducerId where
  number : Nat
deriving DecidableEq, Repr

/-- What a column holds when a record leaves it out. -/
inductive Default where
  | fixed (value : Value)
  | producer (id : ProducerId)
deriving DecidableEq, Repr

namespace Default

/-- Equality of defaults to the application. -/
def equals : Default → Default → Bool
  | fixed first, fixed second => first.equals second
  | producer first, producer second => first = second
  | _, _ => false

end Default

/-- The declaration of a column. -/
structure ColumnSpec where
  name : String
  type : ColumnType
  nullable : Bool := false
  primaryKey : Bool := false
  autoincrement : Bool := false
  unique : Bool := false
  default : Option Default := none
  size : Option Nat := none
deriving DecidableEq, Repr

namespace ColumnSpec

/-- The name of a column in SQL. -/
def sqlName (spec : ColumnSpec) : String := snakeCase spec.name

/-- Whether every record has to give the column a value. -/
def isRequired (spec : ColumnSpec) : Bool :=
  !spec.nullable && !spec.autoincrement && spec.default.isNone

/-- Equality of declarations to the application. -/
def equals (first second : ColumnSpec) : Bool :=
  { first with default := none } = { second with default := none } &&
    match first.default, second.default with
    | some one, some other => one.equals other
    | none, none => true
    | _, _ => false

end ColumnSpec

/-- A column of a table or of an aliased table. -/
structure Column extends ColumnSpec where
  owner : String
deriving DecidableEq, Repr

namespace Column

/-- The same column under another owner. -/
def withOwner (column : Column) (owner : String) : Column := { column with owner := owner }

/-- Equality of columns to the application. -/
def equals (first second : Column) : Bool :=
  first.owner = second.owner && first.toColumnSpec.equals second.toColumnSpec

end Column

end TypedSql
