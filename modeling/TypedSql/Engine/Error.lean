import TypedSql.Sql.Term
import TypedSql.Text.Escaped
import TypedSql.Text.Utf8

/-!
# Refusals of the engine

The engine refuses a statement that it cannot read, whose names it does not know, or whose
values break a constraint, and it refuses to open a database that cannot be reached. Each
refusal has a number and a message. A URL that does not describe a database is refused before
the engine is asked.
-/

namespace TypedSql.Engine

set_option autoImplicit false

/-- What tells the rows of a table apart: its numbers, its primary key, or a unique column. -/
inductive KeyKind where
  | number
  | primary
  | unique
deriving DecidableEq, Repr

/-- Why the engine refuses to do something. -/
inductive Refusal where
  | malformed (fault : Sql.SyntaxError)
  | noSuchTable (table : String)
  | noSuchColumn (name : String)
  | ambiguousColumn (name : String)
  | earlyReference
  | noColumnNamed (table column : String)
  | tableExists (name : String)
  | secondPrimaryKey (table : String)
  | reservedName (name : String)
  | notUnique (kind : KeyKind) (table column : String)
  | missingValue (table column : String)
  | mismatch
  | full
  | readOnly
  | cannotOpen
  | notDatabase
  | noSuchFileSystem (name : String)
deriving DecidableEq, Repr

namespace Refusal

/-- The number of a refusal. -/
def code : Refusal → Nat
  | notUnique .number _ _ => 2579
  | notUnique .primary _ _ => 1555
  | notUnique .unique _ _ => 2067
  | missingValue _ _ => 1299
  | mismatch => 20
  | full => 13
  | readOnly => 8
  | cannotOpen => 14
  | notDatabase => 26
  | _ => 1

/-- A name in double quotes. -/
def quoted (name : String) : String := String.ofList (Quoted.enclose '"' name.toList)

/-- The message of a refusal. -/
def message : Refusal → String
  | malformed fault => fault.message
  | noSuchTable table => "no such table: " ++ table
  | noSuchColumn name => "no such column: " ++ name
  | ambiguousColumn name => "ambiguous column name: " ++ name
  | earlyReference => "ON clause references tables to its right"
  | noColumnNamed table column => "table " ++ table ++ " has no column named " ++ column
  | tableExists name => "table " ++ quoted name ++ " already exists"
  | secondPrimaryKey table => "table \"" ++ table ++ "\" has more than one primary key"
  | reservedName name => "object name reserved for internal use: " ++ name
  | notUnique _ table column => "UNIQUE constraint failed: " ++ table ++ "." ++ column
  | missingValue table column => "NOT NULL constraint failed: " ++ table ++ "." ++ column
  | mismatch => "datatype mismatch"
  | full => "database or disk is full"
  | readOnly => "attempt to write a readonly database"
  | cannotOpen => "unable to open database file"
  | notDatabase => "file is not a database"
  | noSuchFileSystem name => "no such vfs: " ++ name

end Refusal

/-- What is wrong with the URL of a database. -/
inductive UrlFault where
  | path (fault : Utf8.Fault)
  | unknownParameter (key : String)
  | unknownValue (parameter value : String)
deriving DecidableEq, Repr

/-- The wording of a fault. -/
def UrlFault.message : UrlFault → String
  | path fault => fault.message
  | unknownParameter key => "unknown query parameter \x60" ++ key ++
      "\x60 while parsing connection URL"
  | unknownValue parameter value =>
      "unknown value " ++ Escaped.quote value ++ " for \x60" ++ parameter ++ "\x60"

/-- Why a database does not do what it is asked for. -/
inductive EngineError where
  | refused (refusal : Refusal)
  | misconfigured (fault : UrlFault)
deriving DecidableEq, Repr

/-- The message of an error, with the number of a refusal. -/
def EngineError.message : EngineError → String
  | refused refusal =>
      "error returned from database: (code: " ++ toString refusal.code ++ ") " ++ refusal.message
  | misconfigured fault => "error with configuration: " ++ fault.message

end TypedSql.Engine
