import TypedSql.Adapter
import TypedSql.CommandLine.Arguments
import TypedSql.SchemaFile
import TypedSql.Text.Escaped

/-!
# Reports of the command line

Printing the statements of a schema file, or applying it to a database, ends in a report: what
is written to the two outputs, and the exit code. What goes wrong is written after `Error: `
and gives the code 1, and a command line that cannot be taken gives the code 2.

Applying creates the tables one after another, so that those before a failure stay. Every
event is a line that begins with its level, in five columns.
-/

namespace TypedSql.CommandLine

set_option autoImplicit false

/-- What a run writes, and its exit code. -/
structure Report where
  code : Nat := 0
  output : String := ""
  errors : String := ""
deriving DecidableEq, Repr

/-- Why a file cannot be read. -/
inductive ReadFault where
  | notFound
  | isFolder
  | notFolder
  | notText
  | other (description : String)
deriving DecidableEq, Repr

/-- The wording of a fault. -/
def ReadFault.message : ReadFault → String
  | notFound => "No such file or directory (os error 2)"
  | isFolder => "Is a directory (os error 21)"
  | notFolder => "Not a directory (os error 20)"
  | notText => "stream did not contain valid UTF-8"
  | other description => description

/-! ## Lines -/

/-- Lines, each with its end. -/
def lines (texts : List String) : String := String.join (texts.map (· ++ "\n"))

/-- The report of a failure after some output. -/
def failure (output : List String) (message : String) : Report :=
  { code := 1, output := lines output, errors := "Error: " ++ message ++ "\n" }

/-- The line of a new connection. -/
def connectedLine (config : ConnectionConfig) : String :=
  " INFO Connected to SQLite url=" ++ config.url ++ " max_connections=" ++
    toString config.maxConnections

/-- The line of a created table. -/
def createdLine (table : Table) : String :=
  " INFO Created table table=" ++ Escaped.quote table.name

/-- The line of a schema that is applied. -/
def appliedLine (tables : Nat) : String := " INFO Schema applied tables=" ++ toString tables

/-- The line of a log event. That a statement is sent is shown only on demand. -/
def eventLine? (verbose : Bool) : LogEvent → Option String
  | .sent statement =>
      if verbose then some ("DEBUG Executing SQL sql=" ++ statement.text ++ " params=[]") else none
  | .refused statement error =>
      some ("ERROR SQL execution failed sql=" ++ statement.text ++ " params=[] error=" ++
        error.message)

/-! ## Reading schema files -/

/-- The statements of a schema file, or the message of what is wrong with it. -/
def statementsOf (path : String) (content : Except ReadFault String) :
    Except String (List CreateTable) :=
  match content with
  | .error fault => .error ("failed to read " ++ path ++ ": " ++ fault.message)
  | .ok text => ((SchemaFile.parse text).bind (·.statements)).mapError (·.message)

/-! ## Printing statements -/

/-- The dialect of a name. -/
def DialectName.dialect : DialectName → Dialect
  | sqlite => .sqlite
  | generic => .generic

/-- Prints the statements that create the tables of a schema file. -/
def ddl (path : String) (content : Except ReadFault String) (dialect : DialectName) : Report :=
  match statementsOf path content with
  | .error message => failure [] message
  | .ok statements =>
      match renderDdl dialect.dialect statements with
      | .error error => failure [] error.message
      | .ok text => { output := lines [text] }

/-! ## Applying schemas -/

/-- The adapter of the command line, which has one logger. -/
def adapter : Adapter Engine.Connection := { backend := .sqlite, loggers := 1 }

/-- What creating tables comes to: the lines written, the database left, and a failure. -/
structure Progress where
  output : List String
  connection : Engine.Connection
  failure? : Option AdapterError := none

/-- Creates tables one after another up to the first failure. -/
def createAll (verbose : Bool) (connection : Engine.Connection) : List CreateTable → Progress
  | [] => { output := [], connection := connection }
  | statement :: rest =>
      let (call, after) := adapter.perform (.create statement) connection
      let seen := call.log.filterMap fun entry => eventLine? verbose entry.event
      match call.result with
      | .error error => { output := seen, connection := after, failure? := some error }
      | .ok _ =>
          let others := createAll verbose after rest
          { others with output := seen ++ createdLine statement.table :: others.output }

/-- Creates the tables of a schema file in the database of a URL. The database is returned if
it could be opened. -/
def apply (verbose : Bool) (path : String) (content : Except ReadFault String) (url : String)
    (file : String → Engine.FileState) : Report × Option Engine.Connection :=
  match statementsOf path content with
  | .error message => (failure [] message, none)
  | .ok statements =>
      let config : ConnectionConfig := { url := url }
      match config.connect file with
      | .error error => (failure [] error.message, none)
      | .ok connection =>
          let progress := createAll verbose connection statements
          let output := connectedLine config :: progress.output
          match progress.failure? with
          | some error => (failure output error.message, some progress.connection)
          | none =>
              ({ output := lines (output ++ [appliedLine statements.length]) },
                some progress.connection)

/-- How the command line is used. -/
def usage : String :=
  lines ["Usage: typedsql [-d URL] [-v] ddl -s FILE [--dialect sqlite|generic]",
    "       typedsql [-d URL] [-v] apply -s FILE"]

/-- The report of a command line that leads to no action. -/
def Stop.report : Stop → Report
  | help => { output := usage }
  | version => { output := lines ["typedsql 0.1.0"] }
  | misuse => { code := 2, errors := usage }

/-- The path of the database file of a URL. -/
def databasePath? (url : String) : Option String :=
  (Engine.Location.ofUrl url).toOption.bind (·.path?)

end TypedSql.CommandLine
