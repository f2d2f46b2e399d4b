import TypedSql.Binary64.Shortest
import TypedSql.Text.Quoted

/-!
# Storage values

A `Stored` is one of the five storage classes of the database. It is what is bound to a
placeholder and what a result row holds. `inline` writes one as an SQL literal, with quotes
doubled in texts and two capital hexadecimal digits for every byte of a blob.
-/

namespace TypedSql

set_option autoImplicit false

/-- A value of the database. -/
inductive Stored where
  | null
  | int (value : Int64)
  | float (value : Binary64)
  | text (value : String)
  | blob (value : List UInt8)
deriving DecidableEq, Repr

namespace Stored

/-- The word for the storage class of a value in messages. -/
def kind : Stored → String
  | null => "null"
  | int _ => "int"
  | float _ => "float"
  | text _ => "text"
  | blob _ => "blob"

/-- The capital hexadecimal digit of a number below sixteen. -/
def hexDigit (n : Nat) : Char :=
  if n < 10 then Char.ofNat ('0'.toNat + n) else Char.ofNat ('A'.toNat + (n - 10))

/-- The two hexadecimal digits of a byte. -/
def hexByte (byte : UInt8) : List Char :=
  [hexDigit (byte.toNat / 16), hexDigit (byte.toNat % 16)]

/-- The characters of a value as an SQL literal. -/
def literal : Stored → List Char
  | null => "NULL".toList
  | int n => integerDigits n.toInt
  | float x => x.plainText
  | text s => Quoted.enclose '\'' s.toList
  | blob bytes => 'X' :: Quoted.enclose '\'' (bytes.flatMap hexByte)

/-- A value as an SQL literal. -/
def inline (value : Stored) : String := String.ofList value.literal

end Stored

end TypedSql
