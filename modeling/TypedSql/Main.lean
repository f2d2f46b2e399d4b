import TypedSql.CommandLine.DatabaseFile
import TypedSql.CommandLine.Report

/-!
# The command line

Reads the files that a command line names, does what it asks for, and writes the report.
-/

namespace TypedSql.CommandLine

set_option autoImplicit false

/-- Reads a text from a file. -/
def readSchema (path : String) : IO (Except ReadFault String) := do
  try
    return .ok (← IO.FS.readFile path)
  catch
    | .noFileOrDirectory _ _ _ => return .error .notFound
    | .inappropriateType _ code _ => return .error (if code = 20 then .notFolder else .isFolder)
    | error => return .error (.other (toString error))

/-- What a path is to the engine. A missing file is made, unless its directory is missing. -/
def readDatabase (path : String) : IO Engine.FileState := do
  try
    return fileStateOf (← IO.FS.readFile path)
  catch
    | .noFileOrDirectory _ _ _ =>
        try
          IO.FS.writeFile path ""
          return .missing
        catch _ => return .unreachable
    | _ => return .unreachable

/-- Applies a schema to the database at a path, and writes the database back. -/
def applyAt (invocation : Invocation) (schema : String) (content : Except ReadFault String)
    (path : String) : IO Report := do
  let state ← readDatabase path
  let (report, connection) :=
    apply invocation.verbose schema content invocation.database fun _ => state
  if let some connection := connection then
    unless connection.foreign do
      IO.FS.writeFile path (databaseText connection.database)
  return report

/-- Does what a command line asks for. The database is touched only if the schema is in
order. -/
def perform (invocation : Invocation) : IO Report := do
  match invocation.action with
  | .ddl schema dialect => return ddl schema (← readSchema schema) dialect
  | .apply schema =>
      let content ← readSchema schema
      match statementsOf schema content, databasePath? invocation.database with
      | .ok _, some path => applyAt invocation schema content path
      | _, _ => return (apply invocation.verbose schema content invocation.database
          fun _ => .unreachable).1

/-- Runs a command line and writes its report. -/
def runArguments (arguments : List String) : IO UInt32 := do
  let environment ← IO.getEnv "DATABASE_URL"
  let report ← match parse environment arguments with
    | .error stop => pure stop.report
    | .ok invocation => perform invocation
  IO.print report.output
  IO.eprint report.errors
  return UInt32.ofNat report.code

end TypedSql.CommandLine

/-- Runs the command line. -/
def main (arguments : List String) : IO UInt32 := TypedSql.CommandLine.runArguments arguments
