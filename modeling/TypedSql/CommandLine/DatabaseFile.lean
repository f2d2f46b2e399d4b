import TypedSql.Engine.Connection
import TypedSql.Json.Fields
import TypedSql.Json.Printer
import TypedSql.Json.Reader

/-!
# Files of databases

Between two runs of the command line a database holds tables without rows. Its file is a JSON
list of the statements that create them, and the database is what comes of running these
statements. An empty file is an empty database.
-/

namespace TypedSql.CommandLine

set_option autoImplicit false

open Engine

/-- The content of the file of a database. -/
def databaseText (database : Database) : String :=
  (Json.array (database.entries.map fun (_, table) => .string table.definition)).render

/-- Runs statements that create tables. -/
def runDefinitions (database : Database) : List String → Option Database
  | [] => some database
  | definition :: rest =>
      match database.run definition [] with
      | .ok (_, database) => runDefinitions database rest
      | .error _ => none

/-- What the content of a file is to the engine. -/
def fileStateOf (content : String) : FileState :=
  if content.isEmpty then .database .empty
  else
    match (Json.Tree.parse? content).bind (Json.Tree.list? Json.Tree.string?) with
    | none => .foreign
    | some definitions =>
        match runDefinitions .empty definitions with
        | some database => .database database
        | none => .foreign

end TypedSql.CommandLine
