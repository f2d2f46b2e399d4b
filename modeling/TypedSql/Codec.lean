import TypedSql.Calendar.Rfc3339
import TypedSql.Stored
import TypedSql.Value

/-!
# Codecs

A codec converts between the values of a column type and the values that the database
stores. `encode` and `decode` pass NULL through for every type.

An integer column accepts a float that is an integer in the range of 64 bits, and a float
column accepts an integer and rounds it to the nearest double. A boolean is stored as 0 or 1,
and any stored value but the integer 1 is read as false. A datetime is stored as milliseconds
since 1970 and may also be read from an RFC 3339 text.
-/

namespace TypedSql

set_option autoImplicit false

/-- Why a value does not pass a codec. -/
inductive CodecError where
  | typeMismatch (type : ColumnType) (found : String)
  | notIntegral (number : Binary64)
  | integerOutOfRange (number : Binary64)
  | datetimeOutOfRange (millis : Int)
  | invalidDatetime (text : String) (fault : Rfc3339.Fault)
deriving DecidableEq, Repr

/-- The wording of a codec error. -/
def CodecError.message : CodecError → String
  | typeMismatch type found => type.name ++ " cannot hold a " ++ found ++ " value"
  | notIntegral number => String.ofList number.plainText ++ " is not integral"
  | integerOutOfRange number => String.ofList number.plainText ++ " is out of range"
  | datetimeOutOfRange millis => String.ofList (integerDigits millis) ++ " is out of range"
  | invalidDatetime text fault => "invalid datetime: '" ++ text ++ "': " ++ fault.message

namespace Codec

/-- The 64-bit integer equal to a float. -/
def narrow (number : Binary64) : Except CodecError Int64 :=
  match number.toInt? with
  | none => .error (.notIntegral number)
  | some n =>
      if Int64.minValue.toInt ≤ n ∧ n ≤ Int64.maxValue.toInt then .ok (Int64.ofInt n)
      else .error (.integerOutOfRange number)

/-- The double nearest to a 64-bit integer. -/
def widen (n : Int64) : Binary64 := .ofInt n.toInt

/-- The instant at a stored number of milliseconds. -/
def instantAt (millis : Int) : Except CodecError Value :=
  match Instant.ofMillis? millis with
  | some instant => .ok (.datetime instant)
  | none => .error (.datetimeOutOfRange millis)

/-- Converts a value of a column for storage. -/
def encode : ColumnType → Value → Except CodecError Stored
  | _, .null => .ok .null
  | .boolean, .bool b => .ok (.int (if b then 1 else 0))
  | .datetime, .datetime instant => .ok (.int (Int64.ofInt instant.millis))
  | .integer, .integer n => .ok (.int n)
  | .integer, .float x => (narrow x).map .int
  | .float, .float x => .ok (.float x)
  | .float, .integer n => .ok (.float (widen n))
  | .text, .text s => .ok (.text s)
  | .varchar, .text s => .ok (.text s)
  | .binary, .binary bytes => .ok (.blob bytes)
  | type, value => .error (.typeMismatch type value.kind)

/-- Reads a stored value of a column. -/
def decode : ColumnType → Stored → Except CodecError Value
  | _, .null => .ok .null
  | .boolean, stored => .ok (.bool (stored = .int 1))
  | .datetime, .int millis => instantAt millis.toInt
  | .datetime, .text s =>
      match Rfc3339.parse s with
      | .ok instant => instantAt instant.millis
      | .error fault => .error (.invalidDatetime s fault)
  | .integer, .int n => .ok (.integer n)
  | .integer, .float x => (narrow x).map .integer
  | .float, .float x => .ok (.float x)
  | .float, .int n => .ok (.float (widen n))
  | .text, .text s => .ok (.text s)
  | .varchar, .text s => .ok (.text s)
  | .binary, .blob bytes => .ok (.binary bytes)
  | type, stored => .error (.typeMismatch type stored.kind)

end Codec

end TypedSql
