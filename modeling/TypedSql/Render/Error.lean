import TypedSql.Codec
import TypedSql.Expr

/-!
# Statements that cannot be rendered

The causes for which a statement has no text: an alias that its scope does not know, nothing
to write, an operand that cannot stand where it stands, and a value that its codec refuses. A
value is encoded for a place, by which its failure is reported.
-/

namespace TypedSql

set_option autoImplicit false

/-- What an operator does not take on its right. -/
inductive OperandKind where
  | expression
  | singleLiteral
  | list
  | truthKeyword
deriving DecidableEq, Repr

/-- The words for an operand. -/
def OperandKind.description : OperandKind → String
  | expression => "an expression"
  | singleLiteral => "a single literal"
  | list => "a list"
  | truthKeyword => "a truth keyword"

/-- An operand that an operator does not take on its right, or a literal without a column
type. -/
inductive OperandError where
  | mispaired (operator : Operator) (operand : OperandKind)
  | untyped (kind : String)
deriving DecidableEq, Repr

/-- The message of a wrong operand. -/
def OperandError.message : OperandError → String
  | mispaired operator operand =>
      "unsupported expression: " ++ operator.symbol ++ " cannot take " ++ operand.description ++
        " on its right-hand side"
  | untyped kind => "unsupported expression: literal of kind " ++ kind

/-- A statement with nothing to write. -/
inductive EmptyStatement where
  | noRecords (table : String)
  | noInsertableColumns (table : String)
  | noProjection (source : String)
deriving DecidableEq, Repr

/-- The message of a statement with nothing to write. -/
def EmptyStatement.message : EmptyStatement → String
  | noRecords table => "empty statement: insert into '" ++ table ++ "' has no records"
  | noInsertableColumns table =>
      "empty statement: '" ++ table ++ "' has no insertable columns for a multi-row insert"
  | noProjection source => "empty statement: select from '" ++ source ++ "' has no columns"

/-- Where a value fails its codec. -/
inductive CodecPlace where
  | cell (row : Nat) (column : String)
  | default (table column : String)
  | literal
  | limit
  | offset
  | output (owner column : String)
deriving DecidableEq, Repr

/-- The words for the place of a value. -/
def CodecPlace.description : CodecPlace → String
  | cell row column => "[" ++ toString row ++ "]." ++ column
  | default table column => table ++ "." ++ column ++ " default"
  | literal => "literal"
  | limit => "LIMIT"
  | offset => "OFFSET"
  | output owner column => owner ++ "." ++ column

/-- A value that fails its codec at a place. -/
structure CodecFailure where
  place : CodecPlace
  cause : CodecError
deriving DecidableEq, Repr

/-- The message of a value that fails its codec. -/
def CodecFailure.message (failure : CodecFailure) : String :=
  "codec error for " ++ failure.place.description ++ ": " ++ failure.cause.message

/-- Why a statement cannot be rendered. -/
inductive RenderError where
  | resolution (error : ResolutionError)
  | empty (error : EmptyStatement)
  | operand (error : OperandError)
  | codec (failure : CodecFailure)
deriving DecidableEq, Repr

/-- The message of a statement that cannot be rendered. -/
def RenderError.message : RenderError → String
  | resolution error => error.message
  | empty error => error.message
  | operand error => error.message
  | codec failure => failure.message

/-- Encodes a value of a column type, naming the place of a failure. -/
def encodeAt (place : CodecPlace) (type : ColumnType) (value : Value) :
    Except RenderError Stored :=
  (Codec.encode type value).mapError fun cause => .codec ⟨place, cause⟩

end TypedSql
