import TypedSql.Engine.Database
import TypedSql.Engine.Location
import TypedSql.Render.Fragment

/-!
# Connections

A connection holds the database that it has opened and, during a transaction, the database as
it was at the beginning. Beginning keeps the present database aside, committing forgets the
one that was kept, and rolling back returns to it.

A database in memory and a file that is missing begin empty. A file that cannot be reached is
not opened. A file that holds something else is noticed by the first statement.
-/

namespace TypedSql.Engine

set_option autoImplicit false

/-- What a path leads to. -/
inductive FileState where
  | unreachable
  | missing
  | foreign
  | database (content : Database)

/-- An open database. -/
structure Connection where
  database : Database := .empty
  saved : Option Database := none
  readOnly : Bool := false
  foreign : Bool := false
deriving DecidableEq

namespace Connection

/-- Opens the database at a path, if there is one. A missing file is made if it is asked
for. -/
def openPath (location : Location) (createIfMissing : Bool) (file : String → FileState) :
    Except Refusal Connection :=
  match location.path? with
  | none => .ok { readOnly := location.readOnly }
  | some path =>
      let empty : Connection := { readOnly := location.readOnly || location.immutable }
      match file path with
      | .unreachable => .error .cannotOpen
      | .missing =>
          if createIfMissing && !location.readOnly then .ok empty else .error .cannotOpen
      | .foreign => .ok { empty with foreign := true }
      | .database content => .ok { empty with database := content }

/-- Opens the database of a location. -/
def openAt (location : Location) (createIfMissing : Bool) (file : String → FileState) :
    Except Refusal Connection :=
  match location.unknownFileSystem? with
  | some name => .error (.noSuchFileSystem name)
  | none => openPath location createIfMissing file

/-- The refusal of a statement by a file that holds no database. -/
def foreignRefusal (text : String) : Refusal :=
  match Sql.Command.ofText text with
  | .error fault => .malformed fault
  | .ok _ => .notDatabase

/-- Runs a statement. -/
def run (connection : Connection) (statement : Compiled) : Except Refusal (Reply × Connection) :=
  if connection.foreign then .error (foreignRefusal statement.text)
  else do
    let (reply, database) ← connection.database.run statement.text statement.parameters
    if connection.readOnly && database ≠ connection.database then .error .readOnly
    else pure (reply, { connection with database := database })

/-- Begins a transaction. -/
def begin (connection : Connection) : Connection :=
  { connection with saved := some connection.database }

/-- Ends a transaction and keeps what it did. -/
def commit (connection : Connection) : Connection := { connection with saved := none }

/-- Ends a transaction and undoes what it did. -/
def rollback (connection : Connection) : Connection :=
  { connection with database := connection.saved.getD connection.database, saved := none }

end Connection

end TypedSql.Engine
