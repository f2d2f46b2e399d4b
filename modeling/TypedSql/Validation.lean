import TypedSql.Codec
import TypedSql.Schema.Table

/-!
# Validation of records

Before records are inserted they are checked against the table, and every offending cell is
reported, row by row: first the keys that are no columns of the table, in the order of the
keys, then the columns in the order of their declaration. A cell has at most one issue.

An autoincrement column takes no value, a required column needs one, every value has to pass
the codec of its column, and a text may not exceed the declared size, counted in characters.
-/

namespace TypedSql

set_option autoImplicit false

/-- What is wrong with a cell. -/
inductive IssueCause where
  | unknownColumn
  | assignedByDatabase
  | missing
  | unstorable (cause : CodecError)
  | tooLong (length maximum : Nat)
deriving DecidableEq, Repr

/-- The wording of an issue. -/
def IssueCause.message : IssueCause → String
  | unknownColumn => "unknown column"
  | assignedByDatabase => "is assigned by the database"
  | missing => "is required"
  | unstorable cause => cause.message
  | tooLong length maximum =>
      "is " ++ toString length ++ " characters, maximum is " ++ toString maximum

/-- A cell with what is wrong with it. -/
structure Issue where
  row : Nat
  name : String
  cause : IssueCause
deriving DecidableEq, Repr

namespace Issue

/-- The path of the cell. -/
def path (issue : Issue) : String := "[" ++ toString issue.row ++ "]." ++ issue.name

/-- The path and the wording. -/
def message (issue : Issue) : String := issue.path ++ ": " ++ issue.cause.message

end Issue

namespace Validation

/-- The length of a text in a column if it exceeds the declared size. -/
def excess? (column : Column) : Value → Option IssueCause
  | .text s =>
      match column.size with
      | some size =>
          if column.type.isTextual ∧ size < s.length then some (.tooLong s.length size) else none
      | none => none
  | _ => none

/-- What is wrong with a value other than NULL in a column. -/
def valueCause? (column : Column) (value : Value) : Option IssueCause :=
  match Codec.encode column.type value with
  | .error cause => some (.unstorable cause)
  | .ok _ => excess? column value

/-- What is wrong with the cell of a column. -/
def cellCause? (record : Record) (column : Column) : Option IssueCause :=
  let value := (record.get? column.name).getD .null
  if column.autoincrement then
    if value.isNull then none else some .assignedByDatabase
  else if value.isNull then
    if column.isRequired then some .missing else none
  else valueCause? column value

/-- The issues of keys that are no columns. -/
def unknownKeys (table : Table) (row : Nat) (record : Record) : List Issue :=
  (record.keys.filter fun key => table.columns.all (·.name ≠ key)).map (⟨row, ·, .unknownColumn⟩)

/-- The issues of the columns of one record. -/
def columnIssues (table : Table) (row : Nat) (record : Record) : List Issue :=
  table.columns.filterMap fun column => (cellCause? record column).map (⟨row, column.name, ·⟩)

/-- The issues of one record. -/
def recordIssues (table : Table) (row : Nat) (record : Record) : List Issue :=
  unknownKeys table row record ++ columnIssues table row record

/-- The issues of records, counted from `row`. -/
def issuesFrom (table : Table) (row : Nat) : List Record → List Issue
  | [] => []
  | record :: rest => recordIssues table row record ++ issuesFrom table (row + 1) rest

/-- The issues of records. -/
def issues (table : Table) (records : List Record) : List Issue := issuesFrom table 0 records

/-- Refuses records with issues. -/
def check (table : Table) (records : List Record) : Except (List Issue) Unit :=
  if (issues table records).isEmpty then .ok () else .error (issues table records)

/-- The message of refused records. -/
def message (issues : List Issue) : String :=
  "validation failed: " ++ "; ".intercalate (issues.map (·.message))

end Validation

end TypedSql
