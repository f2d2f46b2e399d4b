import TypedSql.Stored

/-!
# Tokens of SQL

The text of a statement is split into words, quoted identifiers, text and blob literals,
numbers, placeholders and symbols. Blanks separate tokens and mean nothing else. A quote
inside quotes is doubled. Placeholders are numbered from the left, from zero on.
-/

namespace TypedSql.Sql

set_option autoImplicit false

/-- A token of a statement. -/
inductive Token where
  | word (letters : String)
  | identifier (name : String)
  | text (content : String)
  | blob (bytes : List UInt8)
  | number (digits : String)
  | placeholder (index : Nat)
  | mark (characters : String)
deriving DecidableEq, Repr

namespace Token

/-- A token as messages show it, which is how it was written. -/
def shown : Token → String
  | word letters => letters
  | identifier name => String.ofList (Quoted.enclose '"' name.toList)
  | text content => (Stored.text content).inline
  | blob bytes => (Stored.blob bytes).inline
  | number digits => digits
  | placeholder _ => "?"
  | mark characters => characters

/-- Whether a character may start a word. -/
def startsWord (c : Char) : Bool := c.isAlpha || c = '_'

/-- Whether a character may continue a word. -/
def continuesWord (c : Char) : Bool := c.isAlphanum || c = '_'

/-- Whether a character may continue a number. -/
def continuesNumber (c : Char) : Bool := c.isDigit || c = '.'

/-- The value of a hexadecimal digit. -/
def hexValue (c : Char) : Nat :=
  if c.isDigit then c.toNat - '0'.toNat else c.toUpper.toNat - 'A'.toNat + 10

/-- The bytes of pairs of hexadecimal digits. -/
def hexBytes : List Char → List UInt8
  | high :: low :: rest => UInt8.ofNat (hexValue high * 16 + hexValue low) :: hexBytes rest
  | _ => []

/-- The symbols of two characters. -/
def doubleMarks : List (Char × Char) := [('<', '='), ('>', '='), ('<', '>')]

/-- Reads the symbol at the start of an input. -/
def readMark (first : Char) : List Char → Token × List Char
  | second :: rest =>
      if (first, second) ∈ doubleMarks then (mark (String.ofList [first, second]), rest)
      else (mark (String.singleton first), second :: rest)
  | [] => (mark (String.singleton first), [])

/-- Reads the token at the start of an input that begins with a character other than a blank.
Placeholders are given the number `index`. -/
def read? (index : Nat) (first : Char) (rest : List Char) : Option (Token × List Char) :=
  if first = '"' then
    (Quoted.readInside? '"' rest).map fun (name, after) =>
      (identifier (String.ofList name), after)
  else if first = '\'' then
    (Quoted.readInside? '\'' rest).map fun (content, after) =>
      (text (String.ofList content), after)
  else if first = '?' then some (placeholder index, rest)
  else if first = 'X' ∧ rest.head? = some '\'' then
    (Quoted.readInside? '\'' (rest.drop 1)).map fun (digits, after) =>
      (blob (hexBytes digits), after)
  else if startsWord first then
    some (word (String.ofList (first :: rest.takeWhile continuesWord)),
      rest.dropWhile continuesWord)
  else if first.isDigit then
    some (number (String.ofList (first :: rest.takeWhile continuesNumber)),
      rest.dropWhile continuesNumber)
  else some (readMark first rest)

/-- Splits an input into tokens, in at most so many steps. -/
def split : Nat → Nat → List Char → Option (List Token)
  | _, _, [] => some []
  | 0, _, _ :: _ => none
  | steps + 1, index, first :: rest =>
      if first.isWhitespace then split steps index rest
      else do
        let (token, after) ← read? index first rest
        let next := if token = placeholder index then index + 1 else index
        let tokens ← split steps next after
        pure (token :: tokens)

/-- The tokens of a statement, unless a quote is never closed. -/
def ofText? (text : String) : Option (List Token) := split text.length 0 text.toList

end Token

end TypedSql.Sql
