import TypedSql.Engine.Connection
import TypedSql.Render.Statement
import TypedSql.Validation

/-!
# Requests to a database

A request is a statement to be run. Before it is sent its records are validated and it is
rendered for SQLite. What comes back is decoded: every returned row becomes a record that has
the value of each output under the name of the output, read by the codec of its column. Of two
outputs of one name the later one stays.
-/

namespace TypedSql

set_option autoImplicit false

/-! ## Failures -/

/-- Why a request fails. -/
inductive AdapterError where
  | invalid (issues : List Issue)
  | rendering (error : RenderError)
  | execution (error : Engine.EngineError)
  | decoding (failure : CodecFailure)
  | noConnections
deriving DecidableEq, Repr

/-- The message of a failure. -/
def AdapterError.message : AdapterError → String
  | invalid issues => Validation.message issues
  | rendering error => error.message
  | execution error => "execution error: " ++ error.message
  | decoding failure => failure.message
  | noConnections => "configuration error: maxConnections must be at least 1"

/-! ## Decoding -/

/-- Adds the decoded values of outputs to a record. -/
def decodeCells (record : Record) : List (Output × Stored) → Except AdapterError Record
  | [] => .ok record
  | (output, stored) :: rest =>
      match Codec.decode output.column.type stored with
      | .ok value => decodeCells (record.insert output.name value) rest
      | .error cause =>
          .error (.decoding ⟨.output output.column.owner output.column.name, cause⟩)

/-- The record of a returned row. -/
def decodeRow (shape : List Output) (row : List Stored) : Except AdapterError Record :=
  decodeCells .empty (shape.zip row)

/-! ## Requests -/

/-- A statement to be run, or one to be validated before. -/
inductive Request where
  | create (statement : CreateTable)
  | insert (statement : Insert)
  | query (statement : Select)
  | delete (statement : Delete)

/-- What a request comes to. -/
inductive Response where
  | created
  | records (records : List Record)
  | removed (count : Nat)
deriving DecidableEq

namespace Request

/-- The statement of a request. -/
def statement : Request → Statement
  | create statement => .createTable statement
  | insert statement => .insert statement
  | query statement => .select statement
  | delete statement => .delete statement

/-- Validates the records of a request. -/
def validate : Request → Except AdapterError Unit
  | insert statement => (Validation.check statement.table statement.records).mapError .invalid
  | _ => .ok ()

/-- Validates and renders a request. -/
def prepare (request : Request) : Except AdapterError Compiled := do
  request.validate
  (request.statement.compile .sqlite).mapError .rendering

/-- Decodes what the engine answers to a request. -/
def interpret (request : Request) (reply : Engine.Reply) : Except AdapterError Response :=
  match request with
  | create _ => .ok .created
  | insert statement =>
      if statement.returnShape.isEmpty then .ok (.records [])
      else (reply.rows.mapM (decodeRow statement.returnShape)).map .records
  | query statement => (reply.rows.mapM (decodeRow statement.projection)).map .records
  | delete _ => .ok (.removed reply.removed)

end Request

end TypedSql
