import TypedSql.Binary64.Rounding
import TypedSql.Calendar.Instant
import TypedSql.ColumnType
import TypedSql.Dictionary

/-!
# Application values

A `Value` is what an application puts into a record, a literal or a default. Every value but
NULL has a column type of its own. Two values are *equal to the application* when they are of
one kind and their contents agree, where floats are compared as numbers: the two zeros are
equal and a NaN differs from itself.

`ToValue` turns the native types of an application into values. An absent optional is NULL.
-/

namespace TypedSql

set_option autoImplicit false

/-- A value of an application. -/
inductive Value where
  | null
  | bool (value : Bool)
  | integer (value : Int64)
  | float (value : Binary64)
  | text (value : String)
  | binary (value : List UInt8)
  | datetime (value : Instant)
deriving DecidableEq, Repr

namespace Value

/-- Whether a value is NULL. -/
def isNull : Value → Bool
  | null => true
  | _ => false

/-- The word for the kind of a value in messages. -/
def kind : Value → String
  | null => "null"
  | bool _ => "bool"
  | integer _ => "integer"
  | float _ => "float"
  | text _ => "text"
  | binary _ => "binary"
  | datetime _ => "datetime"

/-- The column type that a value belongs to. -/
def columnType? : Value → Option ColumnType
  | null => none
  | bool _ => some .boolean
  | integer _ => some .integer
  | float _ => some .float
  | text _ => some .text
  | binary _ => some .binary
  | datetime _ => some .datetime

/-- Equality of values to the application, which compares floats as numbers. -/
def equals : Value → Value → Bool
  | float first, float second => first.equals second
  | first, second => first == second

end Value

/-- A row of named values. -/
abbrev Record := Dictionary Value

/-- The types whose members are values. -/
class ToValue (α : Type) where
  toValue : α → Value

export ToValue (toValue)

instance : ToValue Value := ⟨id⟩

instance : ToValue Bool := ⟨.bool⟩

instance : ToValue Int64 := ⟨.integer⟩

instance : ToValue Int32 := ⟨fun n => .integer n.toInt64⟩

instance : ToValue UInt32 := ⟨fun n => .integer (Int64.ofNat n.toNat)⟩

instance : ToValue Binary64 := ⟨.float⟩

instance : ToValue Binary32 := ⟨fun x => .float x.toBinary64⟩

instance : ToValue String := ⟨.text⟩

instance : ToValue (List UInt8) := ⟨.binary⟩

instance : ToValue Instant := ⟨.datetime⟩

instance {α : Type} [ToValue α] : ToValue (Option α) := ⟨fun
  | some member => toValue member
  | none => .null⟩

end TypedSql
