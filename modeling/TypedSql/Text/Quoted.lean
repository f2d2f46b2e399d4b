/-!
# Quoted text

Identifiers and text literals are written between two quote characters, and a quote
character inside is written twice. `read?` is the reader of that form: it stops at the
first quote that is not doubled and returns the text together with what follows.
-/

namespace TypedSql.Quoted

set_option autoImplicit false

/-- Writes every quote character twice. -/
def double (quote : Char) : List Char → List Char
  | [] => []
  | c :: rest => if c = quote then quote :: quote :: double quote rest else c :: double quote rest

/-- A text between quotes. -/
def enclose (quote : Char) (text : List Char) : List Char :=
  quote :: (double quote text ++ [quote])

/-- Reads the inside of a quoted text up to its closing quote, and returns it with the
rest of the input. A text that is never closed is refused. -/
def readInside? (quote : Char) : List Char → Option (List Char × List Char)
  | [] => none
  | [c] => if c = quote then some ([], []) else none
  | c :: next :: rest =>
      if c = quote then
        if next = quote then
          (readInside? quote rest).map fun (text, after) => (quote :: text, after)
        else some ([], next :: rest)
      else (readInside? quote (next :: rest)).map fun (text, after) => (c :: text, after)

/-- Reads a quoted text from its opening quote. -/
def read? (quote : Char) : List Char → Option (List Char × List Char)
  | [] => none
  | c :: rest => if c = quote then readInside? quote rest else none

end TypedSql.Quoted
