import TypedSql.Dialect
import TypedSql.Stored

/-!
# Statements in fragments

A statement is rendered as a list of fragments: fixed words of SQL, identifiers, values
written into the text, and values bound to placeholders. The text of the statement and its
parameters are two views of the one list, so that every placeholder is written together with
its parameter.

`placeholderCount` counts the placeholders of a finished text on its own. It reads the text
from the left, skips what stands between quotes, and counts the question marks outside.
-/

namespace TypedSql

set_option autoImplicit false

/-- A part of a rendered statement. -/
inductive Fragment where
  | word (text : String)
  | identifier (name : String)
  | inline (value : Stored)
  | bound (value : Stored)
deriving DecidableEq, Repr

namespace Fragment

/-- The characters of a fragment in a dialect. -/
def chars (dialect : Dialect) : Fragment → List Char
  | word text => text.toList
  | identifier name => dialect.identifier name
  | inline value => value.literal
  | bound _ => dialect.placeholder.toList

/-- The parameter of a fragment. -/
def parameter? : Fragment → Option Stored
  | bound value => some value
  | _ => none

/-- Fragments separated by a word. -/
def separated (separator : String) (parts : List (List Fragment)) : List Fragment :=
  List.intercalate [word separator] parts

end Fragment

/-- A statement as it is sent to the database. -/
structure Compiled where
  text : String
  parameters : List Stored
deriving DecidableEq, Repr

namespace Compiled

/-- The text and the parameters of fragments. -/
def ofFragments (dialect : Dialect) (fragments : List Fragment) : Compiled where
  text := String.ofList (fragments.flatMap (·.chars dialect))
  parameters := fragments.filterMap (·.parameter?)

/-- Counts the question marks outside quotes, starting inside the given quotes. -/
def countOutside : Option Char → List Char → Nat
  | _, [] => 0
  | none, c :: rest =>
      if c = '"' ∨ c = '\'' then countOutside (some c) rest
      else if c = '?' then countOutside none rest + 1
      else countOutside none rest
  | some quote, c :: rest =>
      if c = quote then countOutside none rest else countOutside (some quote) rest

/-- The number of placeholders in the text. -/
def placeholderCount (compiled : Compiled) : Nat := countOutside none compiled.text.toList

end Compiled

end TypedSql
