import TypedSql.CommandLine.Report

/-!
# Folders

A folder is the files of one directory as a value, so that a sequence of runs in it can be
worked out: each run is given the folder that the one before it left. A file holds a text or a
database. Paths lead to files of the folder only, apart from steps that stay where they are.
-/

namespace TypedSql.CommandLine

set_option autoImplicit false

/-- What a file holds. -/
inductive File where
  | text (content : String)
  | database (content : Engine.Database)

/-- The files of a directory by their names. -/
abbrev Folder := Dictionary File

/-- What a path leads to. -/
inductive Target where
  | file (name : String) (content : File)
  | free (name : String)
  | folder
  | below
  | outside

namespace Folder

/-- The target of the steps of a relative path. -/
def follow (folder : Folder) : List String → Target
  | [] => .folder
  | "." :: rest => follow folder rest
  | "" :: rest => follow folder rest
  | name :: rest =>
      match folder.get? name, rest with
      | some content, [] => .file name content
      | some _, _ :: _ => .below
      | none, [] => if name = ".." then .folder else .free name
      | none, _ :: _ => .outside

/-- The target of a path. -/
def target (folder : Folder) (path : String) : Target :=
  if path.startsWith "/" ∨ path.isEmpty then .outside else folder.follow (path.splitOn "/")

/-- Reads a file. -/
def read (folder : Folder) (path : String) : Except ReadFault String :=
  match folder.target path with
  | .file _ (.text content) => .ok content
  | .file _ (.database content) => if content.entries.isEmpty then .ok "" else .error .notText
  | .free _ => .error .notFound
  | .folder => .error .isFolder
  | .below => .error .notFolder
  | .outside => .error .notFound

/-- What a path is to the engine. An empty text is an empty database. -/
def fileState (folder : Folder) (path : String) : Engine.FileState :=
  match folder.target path with
  | .file _ (.text content) => if content.isEmpty then .database .empty else .foreign
  | .file _ (.database content) => .database content
  | .free _ => .missing
  | _ => .unreachable

/-- The folder after a database of a path was changed. -/
def store (folder : Folder) (path : String) (connection : Engine.Connection) : Folder :=
  if connection.foreign then folder
  else
    match folder.target path with
    | .file name _ => folder.insert name (.database connection.database)
    | .free name => folder.insert name (.database connection.database)
    | _ => folder

/-- Does what a command line asks for. -/
def perform (folder : Folder) (invocation : Invocation) : Report × Folder :=
  match invocation.action with
  | .ddl schema dialect => (ddl schema (folder.read schema) dialect, folder)
  | .apply schema =>
      let (report, connection) := apply invocation.verbose schema (folder.read schema)
        invocation.database folder.fileState
      match connection, databasePath? invocation.database with
      | some connection, some path => (report, folder.store path connection)
      | _, _ => (report, folder)

/-- Runs a command line in the folder. -/
def run (folder : Folder) (environment : Option String) (arguments : List String) :
    Report × Folder :=
  match parse environment arguments with
  | .error stop => (stop.report, folder)
  | .ok invocation => folder.perform invocation

/-- Runs command lines one after another. -/
def runAll (folder : Folder) (environment : Option String) : List (List String) → List Report
  | [] => []
  | arguments :: rest =>
      let (report, folder) := folder.run environment arguments
      report :: folder.runAll environment rest

end Folder

end TypedSql.CommandLine
