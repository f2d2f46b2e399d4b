import TypedSql.Proofs.Outcome
import TypedSql.Request

/-!
# What becomes of returned rows

Every stored value of a returned row belongs to an output, and is read by the codec of its column.
A value that the codec does not take is a misreading. An answer of the engine to a request comes
to the first misreading among its rows, row by row and from the left, and without any to a
response (`Request.interpret_eq_answer`). So the only failure behind an answer of the engine is a
value that cannot be read.
-/

set_option autoImplicit false

namespace TypedSql

open Outcome

/-! ## Rows -/

/-- The failure of a stored value that the column of an output cannot read. -/
def misreadings (cell : Output × Stored) : List AdapterError :=
  match Codec.decode cell.1.column.type cell.2 with
  | .ok _ => []
  | .error cause =>
      [.decoding ⟨.output cell.1.column.owner cell.1.column.name, cause⟩]

/-- A record with the value of an output, and NULL for a value that cannot be read. -/
def addCell (record : Record) (cell : Output × Stored) : Record :=
  record.insert cell.1.name ((Codec.decode cell.1.column.type cell.2).toOption.getD .null)

theorem decodeCells_eq_answer (record : Record) (cells : List (Output × Stored)) :
    decodeCells record cells =
      answer (cells.flatMap misreadings) (cells.foldl addCell record) := by
  induction cells generalizing record with
  | nil => rfl
  | cons cell rest ih =>
      obtain ⟨output, stored⟩ := cell
      rw [decodeCells, List.flatMap_cons, List.foldl_cons, misreadings, addCell]
      cases Codec.decode output.column.type stored with
      | ok value => exact ih _
      | error cause => rfl

theorem decodeRow_eq_answer (shape : List Output) (row : List Stored) :
    decodeRow shape row =
      answer ((shape.zip row).flatMap misreadings) ((shape.zip row).foldl addCell .empty) :=
  decodeCells_eq_answer _ _

/-- A stored value is misread when the codec of its column refuses it. -/
theorem mem_misreadings_iff {cell : Output × Stored} {error : AdapterError} :
    error ∈ misreadings cell ↔
      ∃ cause, Codec.decode cell.1.column.type cell.2 = .error cause ∧
        error = .decoding ⟨.output cell.1.column.owner cell.1.column.name, cause⟩ := by
  rw [misreadings]
  cases Codec.decode cell.1.column.type cell.2 <;> simp

/-! ## Answers to requests -/

namespace Request

/-- The outputs of a request. -/
def shape : Request → List Output
  | insert statement => statement.returnShape
  | query statement => statement.projection
  | _ => []

/-- The stored values that an answer holds for the outputs of a request. -/
def cells (request : Request) (reply : Engine.Reply) : List (Output × Stored) :=
  reply.rows.flatMap fun row => request.shape.zip row

/-- The response to a request, whatever can be read of the answer. -/
def response (request : Request) (reply : Engine.Reply) : Response :=
  match request with
  | create _ => .created
  | insert statement =>
      .records (if statement.returnShape.isEmpty then []
        else reply.rows.map fun row => (statement.returnShape.zip row).foldl addCell .empty)
  | query statement =>
      .records (reply.rows.map fun row => (statement.projection.zip row).foldl addCell .empty)
  | delete _ => .removed reply.removed

theorem flatMap_cells_eq_nil {request : Request} (reply : Engine.Reply)
    (shapeless : request.shape = []) : (request.cells reply).flatMap misreadings = [] := by
  simp [cells, shapeless]

/-- **An answer of the engine comes to its first misreading, or else to a response.** -/
theorem interpret_eq_answer (request : Request) (reply : Engine.Reply) :
    request.interpret reply =
      answer ((request.cells reply).flatMap misreadings) (request.response reply) := by
  cases request with
  | create => rw [flatMap_cells_eq_nil reply rfl]; rfl
  | delete => rw [flatMap_cells_eq_nil reply rfl]; rfl
  | query statement =>
      rw [interpret, mapM_answer (decodeRow_eq_answer statement.projection), map_answer, cells,
        List.flatMap_assoc]
      rfl
  | insert statement =>
      rw [interpret, response]
      split
      case isTrue nothing =>
        have shapeless : (insert statement).shape = [] := List.isEmpty_iff.mp nothing
        rw [flatMap_cells_eq_nil reply shapeless]
        rfl
      case isFalse =>
        rw [mapM_answer (decodeRow_eq_answer statement.returnShape), map_answer, cells,
          List.flatMap_assoc]
        rfl

/-- An answer of the engine fails for a stored value that cannot be read only. -/
theorem exists_misread_of_interpret {request : Request} {reply : Engine.Reply}
    {error : AdapterError} (failed : request.interpret reply = .error error) :
    ∃ cell ∈ request.cells reply, error ∈ misreadings cell := by
  rw [interpret_eq_answer, answer_eq_error_iff] at failed
  exact List.mem_flatMap.mp (List.mem_of_mem_head? failed)

end Request

end TypedSql
