/-!
# Unresolved names

The ways in which a name of a column or an alias fails to resolve: a table without that
column, an alias that a query registers twice or does not know, and a condition of a delete
that looks outside the deleted table.
-/

namespace TypedSql

set_option autoImplicit false

/-- Why a name does not resolve. -/
inductive ResolutionError where
  | unknownColumn (owner column : String)
  | aliasTaken (aliasName : String)
  | unregistered (aliasName : String)
  | outsideDelete (owner column aliasName : String)
deriving DecidableEq, Repr

namespace ResolutionError

/-- The name that does not resolve. -/
def reference : ResolutionError → String
  | unknownColumn owner column => owner ++ "." ++ column
  | aliasTaken aliasName => aliasName
  | unregistered aliasName => aliasName
  | outsideDelete owner column _ => owner ++ "." ++ column

/-- The reason why it does not. -/
def reason : ResolutionError → String
  | unknownColumn _ _ => "no such column"
  | aliasTaken _ => "alias is already registered"
  | unregistered _ => "alias is not registered in this query"
  | outsideDelete _ _ aliasName => "DELETE only sees alias '" ++ aliasName ++ "'"

/-- The message of an unresolved name. -/
def message (error : ResolutionError) : String :=
  "cannot resolve '" ++ error.reference ++ "': " ++ error.reason

end ResolutionError

end TypedSql
