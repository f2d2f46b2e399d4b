import TypedSql.Engine.Numeral
import TypedSql.Sql.Term
import TypedSql.Statement.Select

/-!
# Commands of SQL

A command is a statement as it is read from its text: a table to create, rows to insert, a
query or a deletion. Values of rows, the limit and the offset are placeholders, and conditions
are terms.

A definition of a table is kept up to the first token that does not fit, together with that
fault, because what comes before it may be refused for another reason.
-/

namespace TypedSql.Sql

set_option autoImplicit false

/-- A column in the definition of a table. -/
structure ColumnDefinition where
  name : String
  typeName : String
  primaryKey : Bool := false
  autoincrement : Bool := false
  notNull : Bool := false
  unique : Bool := false
  default : Stored := .null
deriving DecidableEq, Repr

/-- A table of a query under its alias. -/
structure Source where
  table : String
  aliasName : String
deriving DecidableEq, Repr

/-- A joined table of a query. -/
structure JoinClause where
  kind : JoinKind
  source : Source
  on : Term

/-- A column reference to order by. -/
structure OrderClause where
  qualifier : String
  name : String
  direction : Direction
deriving DecidableEq, Repr

/-- A query. -/
structure Query where
  projection : List (String × String)
  source : Source
  joins : List JoinClause
  condition : Option Term
  order : List OrderClause
  limit : Option Nat
  offset : Option Nat

/-- A statement as it is read from its text. -/
inductive Command where
  | create (name : String) (ifNotExists : Bool) (columns : List ColumnDefinition)
      (fault : Option SyntaxError)
  | insert (table : String) (columns : List String) (rows : List (List Nat))
      (returning : List String)
  | query (query : Query)
  | delete (source : Source) (condition : Option Term)

namespace Command

/-! ## Small parts -/

/-- Reads a quoted identifier. -/
def readIdentifier : List Token → Except SyntaxError (String × List Token)
  | .identifier name :: rest => .ok (name, rest)
  | tokens => unexpected tokens

/-- Reads a placeholder. -/
def readPlaceholder : List Token → Except SyntaxError (Nat × List Token)
  | .placeholder index :: rest => .ok (index, rest)
  | tokens => unexpected tokens

/-- Reads at least one item, with commas between items. -/
def readSeparated {α : Type} (readItem : List Token → Except SyntaxError (α × List Token)) :
    Nat → List Token → Except SyntaxError (List α × List Token)
  | 0, tokens => unexpected tokens
  | steps + 1, tokens => do
      let (first, rest) ← readItem tokens
      match rest with
      | .mark "," :: rest => do
          let (others, rest) ← readSeparated readItem steps rest
          pure (first :: others, rest)
      | rest => pure ([first], rest)

/-- Reads at least one item, with commas between items. -/
def readList {α : Type} (readItem : List Token → Except SyntaxError (α × List Token))
    (tokens : List Token) : Except SyntaxError (List α × List Token) :=
  readSeparated readItem tokens.length tokens

/-- Reads items in parentheses, with commas between them. -/
def readTuple {α : Type} (readItem : List Token → Except SyntaxError (α × List Token))
    (tokens : List Token) : Except SyntaxError (List α × List Token) := do
  let rest ← expect (.mark "(") tokens
  let (items, rest) ← readList readItem rest
  let rest ← expect (.mark ")") rest
  pure (items, rest)

/-- Reads a column with its qualifier. -/
def readReference (tokens : List Token) :
    Except SyntaxError ((String × String) × List Token) := do
  let (qualifier, rest) ← readIdentifier tokens
  let rest ← expect (.mark ".") rest
  let (name, rest) ← readIdentifier rest
  pure ((qualifier, name), rest)

/-- Reads a table with its alias. -/
def readSource (tokens : List Token) : Except SyntaxError (Source × List Token) := do
  let (table, rest) ← readIdentifier tokens
  let rest ← expectKeyword "AS" rest
  let (aliasName, rest) ← readIdentifier rest
  pure (⟨table, aliasName⟩, rest)

/-- Reads a condition after its keyword, if there is one. -/
def readCondition (tokens : List Token) : Except SyntaxError (Option Term × List Token) :=
  match keywords? ["WHERE"] tokens with
  | none => .ok (none, tokens)
  | some rest => do
      let (term, rest) ← Term.read rest
      pure (some term, rest)

/-- Refuses tokens that do not consist of the closing semicolon. -/
def expectEnd : List Token → Except SyntaxError Unit
  | [.mark ";"] => .ok ()
  | .mark ";" :: rest => unexpected rest
  | tokens => unexpected tokens

/-! ## Definitions of tables -/

/-- The value of the digits of a number. -/
def numberValue (negative : Bool) (digits : String) : Stored :=
  match Engine.Numeral.ofText? digits with
  | some numeral => { numeral with negative := negative }.toStored
  | none => .null

/-- Reads the value of a default: a literal, or a bare word, which stands for its letters. -/
def readDefault : List Token → Except SyntaxError (Stored × List Token)
  | .number digits :: rest => .ok (numberValue false digits, rest)
  | .mark "-" :: .number digits :: rest => .ok (numberValue true digits, rest)
  | .mark "-" :: rest => unexpected rest
  | .text content :: rest => .ok (.text content, rest)
  | .blob bytes :: rest => .ok (.blob bytes, rest)
  | .word letters :: rest =>
      .ok (if letters.toUpper = "NULL" then .null else .text letters, rest)
  | tokens => unexpected tokens

/-- What reading a part of a definition comes to: the part so far, and the tokens after it or
the fault that ended it. -/
structure Partial (α : Type) where
  result : α
  rest : Except SyntaxError (List Token)

/-- Reads the clauses of a column. -/
def readClauses : Nat → ColumnDefinition → List Token → Partial ColumnDefinition
  | 0, column, tokens => ⟨column, .ok tokens⟩
  | steps + 1, column, tokens =>
      if let some rest := keywords? ["PRIMARY", "KEY"] tokens then
        let rest := (keywords? ["ASC"] rest).getD rest
        match keywords? ["AUTOINCREMENT"] rest with
        | some rest =>
            readClauses steps { column with primaryKey := true, autoincrement := true } rest
        | none => readClauses steps { column with primaryKey := true } rest
      else if let some rest := keywords? ["NOT", "NULL"] tokens then
        readClauses steps { column with notNull := true } rest
      else if let some rest := keywords? ["UNIQUE"] tokens then
        readClauses steps { column with unique := true } rest
      else if let some rest := keywords? ["DEFAULT"] tokens then
        match readDefault rest with
        | .ok (value, rest) => readClauses steps { column with default := value } rest
        | .error fault => ⟨column, .error fault⟩
      else ⟨column, .ok tokens⟩

/-- Reads the definition of a column, if it has at least a name and a type. -/
def readColumn (tokens : List Token) : Except SyntaxError (Partial ColumnDefinition) :=
  match tokens with
  | .identifier name :: .word typeName :: rest =>
      .ok (readClauses rest.length { name := name, typeName := typeName } rest)
  | .identifier _ :: rest => unexpected rest
  | tokens => unexpected tokens

/-- Reads the columns of a table up to the closing parenthesis. -/
def readColumns : Nat → List Token → Partial (List ColumnDefinition)
  | 0, tokens => ⟨[], unexpected tokens⟩
  | steps + 1, tokens =>
      match readColumn tokens with
      | .error fault => ⟨[], .error fault⟩
      | .ok ⟨column, .error fault⟩ => ⟨[column], .error fault⟩
      | .ok ⟨column, .ok (.mark "," :: rest)⟩ =>
          let others := readColumns steps rest
          ⟨column :: others.result, others.rest⟩
      | .ok ⟨column, .ok rest⟩ => ⟨[column], expect (.mark ")") rest⟩

/-- Reads a definition of a table after its keywords. -/
def readCreate (tokens : List Token) : Except SyntaxError Command := do
  let ifNotExists := keywords? ["IF", "NOT", "EXISTS"] tokens
  let (name, rest) ← readIdentifier (ifNotExists.getD tokens)
  match expect (.mark "(") rest with
  | .error fault => pure (create name ifNotExists.isSome [] (some fault))
  | .ok rest =>
      let columns := readColumns rest.length rest
      let fault := match columns.rest.bind expectEnd with
        | .error fault => some fault
        | .ok () => none
      pure (create name ifNotExists.isSome columns.result fault)

/-! ## Rows, queries and deletions -/

/-- Reads a returned column with its name in the result. -/
def readReturned (tokens : List Token) : Except SyntaxError (String × List Token) := do
  let (column, rest) ← readIdentifier tokens
  let rest ← expectKeyword "AS" rest
  let (_, rest) ← readIdentifier rest
  pure (column, rest)

/-- Reads the columns and the rows of an insertion. -/
def readRows (tokens : List Token) :
    Except SyntaxError ((List String × List (List Nat)) × List Token) :=
  match keywords? ["DEFAULT", "VALUES"] tokens with
  | some rest => .ok (([], [[]]), rest)
  | none => do
      let (columns, rest) ← readTuple readIdentifier tokens
      let rest ← expectKeyword "VALUES" rest
      let (rows, rest) ← readList (readTuple readPlaceholder) rest
      pure ((columns, rows), rest)

/-- Reads an insertion after its keywords. -/
def readInsert (tokens : List Token) : Except SyntaxError Command := do
  let (table, rest) ← readIdentifier tokens
  let ((columns, rows), rest) ← readRows rest
  let (returning, rest) ← match keywords? ["RETURNING"] rest with
    | some rest => readList readReturned rest
    | none => pure ([], rest)
  expectEnd rest
  pure (insert table columns rows returning)

/-- The kinds of joins and their keywords. -/
def joinKeywords : List (List String × JoinKind) :=
  [(["INNER", "JOIN"], .inner), (["LEFT", "OUTER", "JOIN"], .left),
    (["RIGHT", "OUTER", "JOIN"], .right)]

/-- Reads joined tables. -/
def readJoins : Nat → List Token → Except SyntaxError (List JoinClause × List Token)
  | 0, tokens => .ok ([], tokens)
  | steps + 1, tokens =>
      match joinKeywords.findSome? fun (words, kind) => (keywords? words tokens).map (kind, ·) with
      | none => .ok ([], tokens)
      | some (kind, rest) => do
          let (source, rest) ← readSource rest
          let rest ← expectKeyword "ON" rest
          let (on, rest) ← Term.read rest
          let (others, rest) ← readJoins steps rest
          pure (⟨kind, source, on⟩ :: others, rest)

/-- Reads a projected column with its name in the result. -/
def readProjected (tokens : List Token) :
    Except SyntaxError ((String × String) × List Token) := do
  let (reference, rest) ← readReference tokens
  let rest ← expectKeyword "AS" rest
  let (_, rest) ← readIdentifier rest
  pure (reference, rest)

/-- Reads a column to order by. -/
def readOrderClause (tokens : List Token) : Except SyntaxError (OrderClause × List Token) := do
  let ((qualifier, name), rest) ← readReference tokens
  match keywords? ["DESC"] rest with
  | some rest => pure (⟨qualifier, name, .descending⟩, rest)
  | none =>
      let rest ← expectKeyword "ASC" rest
      pure (⟨qualifier, name, .ascending⟩, rest)

/-- Reads a placeholder after its keyword, if there is one. -/
def readBound (keyword : String) (tokens : List Token) :
    Except SyntaxError (Option Nat × List Token) :=
  match keywords? [keyword] tokens with
  | none => .ok (none, tokens)
  | some rest => do
      let (index, rest) ← readPlaceholder rest
      pure (some index, rest)

/-- Reads a query after its keyword. An offset needs a limit before it. -/
def readQuery (tokens : List Token) : Except SyntaxError Command := do
  let (projection, rest) ← readList readProjected tokens
  let rest ← expectKeyword "FROM" rest
  let (source, rest) ← readSource rest
  let (joins, rest) ← readJoins rest.length rest
  let (condition, rest) ← readCondition rest
  let (order, rest) ← match keywords? ["ORDER", "BY"] rest with
    | some rest => readList readOrderClause rest
    | none => pure ([], rest)
  let (limit, rest) ← readBound "LIMIT" rest
  let (offset, rest) ← if limit.isSome then readBound "OFFSET" rest else pure (none, rest)
  expectEnd rest
  pure (query ⟨projection, source, joins, condition, order, limit, offset⟩)

/-- Reads a deletion after its keywords. -/
def readDelete (tokens : List Token) : Except SyntaxError Command := do
  let (source, rest) ← readSource tokens
  let (condition, rest) ← readCondition rest
  expectEnd rest
  pure (delete source condition)

/-- The command that tokens make up. -/
def ofTokens (tokens : List Token) : Except SyntaxError Command :=
  if let some rest := keywords? ["CREATE"] tokens then
    (expectKeyword "TABLE" rest).bind readCreate
  else if let some rest := keywords? ["INSERT", "INTO"] tokens then readInsert rest
  else if let some rest := keywords? ["SELECT"] tokens then readQuery rest
  else if let some rest := keywords? ["DELETE", "FROM"] tokens then readDelete rest
  else unexpected tokens

/-- The command of a text. -/
def ofText (text : String) : Except SyntaxError Command :=
  match Token.ofText? text with
  | some tokens => ofTokens tokens
  | none => .error .incomplete

end Command

end TypedSql.Sql
