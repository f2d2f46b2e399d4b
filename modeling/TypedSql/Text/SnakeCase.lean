import TypedSql.Text.LetterCase

/-!
# Snake case

Columns are declared under names such as `parentId` and written in SQL as `parent_id`. The
conversion puts a separator before each capital letter that starts a word and lowers every
character on its own. A capital starts a word after a lower-case letter, after an ASCII
digit, and at the end of a run of capitals that a lower-case letter follows, so that
`HTTPServer` becomes `http_server`.
-/

namespace TypedSql.SnakeCase

set_option autoImplicit false

open LetterCase

/-- Whether `current` starts a word between its neighbours. -/
def startsWord (previous current : Char) (next : Option Char) : Bool :=
  isUpper current &&
    (isLower previous || previous.isDigit || (isUpper previous && next.any isLower))

/-- The separator written before a character, which the first character never has. -/
def separator (previous : Option Char) (current : Char) (next : Option Char) : List Char :=
  if previous.any (startsWord · current next) then ['_'] else []

/-- Converts the characters that follow `previous`. -/
def convertAfter (previous : Option Char) : List Char → List Char
  | [] => []
  | current :: rest =>
      separator previous current rest.head? ++ lower current ++ convertAfter (some current) rest

/-- The characters of a name in snake case. -/
def convert (name : List Char) : List Char := convertAfter none name

end TypedSql.SnakeCase

namespace TypedSql

/-- A declared name as SQL writes it. -/
def snakeCase (name : String) : String := String.ofList (SnakeCase.convert name.toList)

end TypedSql
