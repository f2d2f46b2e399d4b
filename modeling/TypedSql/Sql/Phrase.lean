import TypedSql.Sql.Token

/-!
# Phrases of SQL and the precedence of operators

A phrase is a condition as it is written: every operator with the operands that it takes, and
every pair of parentheses that was read. From the loosest to the tightest, the operators are
`OR`; `AND`; prefix `NOT`; then `=`, `<>`, `IS`, `IN` and `LIKE` with their negations; then
`<`, `<=`, `>` and `>=`. Operators of two operands on one level group to the left, and
parentheses group.

`NOT` takes everything that binds tighter than itself, also an equality that follows a
parenthesis: `NOT (a) = b` is the negation of an equality. How tightly it binds is a parameter
of the reader, `negation`.
-/

namespace TypedSql.Sql

set_option autoImplicit false

/-- A text that is no statement: the token that does not fit, or the end. -/
inductive SyntaxError where
  | near (token : Token)
  | incomplete
deriving DecidableEq, Repr

/-- The wording of a syntax error. -/
def SyntaxError.message : SyntaxError → String
  | near token => "near \"" ++ token.shown ++ "\": syntax error"
  | incomplete => "incomplete input"

/-- The error at the start of tokens. -/
def unexpected {α : Type} : List Token → Except SyntaxError α
  | token :: _ => .error (.near token)
  | [] => .error .incomplete

/-- Whether a token is a keyword, in any mixture of cases. -/
def Token.isKeyword (token : Token) (keyword : String) : Bool :=
  match token with
  | .word letters => letters.toUpper = keyword
  | _ => false

/-- The tokens after a token that has to be there. -/
def expect (expected : Token) : List Token → Except SyntaxError (List Token)
  | token :: rest => if token = expected then .ok rest else .error (.near token)
  | [] => .error .incomplete

/-- The tokens after a keyword that has to be there. -/
def expectKeyword (keyword : String) : List Token → Except SyntaxError (List Token)
  | token :: rest => if token.isKeyword keyword then .ok rest else .error (.near token)
  | [] => .error .incomplete

/-- The tokens after keywords, if they are there. -/
def keywords? : List String → List Token → Option (List Token)
  | [], tokens => some tokens
  | _ :: _, [] => none
  | keyword :: more, token :: rest =>
      if token.isKeyword keyword then keywords? more rest else none

/-! ## Operators between operands -/

/-- An operator that compares two values. -/
inductive Comparison where
  | eq
  | notEq
  | lt
  | ltEq
  | gt
  | gtEq
deriving DecidableEq, Repr

/-- An operator between two operands. -/
inductive Infix where
  | or
  | and
  | compare (comparison : Comparison)
  | is (negated : Bool)
  | like (negated : Bool)
  | isIn (negated : Bool)
deriving DecidableEq, Repr

namespace Infix

/-- How tightly an operator binds. -/
def level : Infix → Nat
  | or => 1
  | and => 2
  | compare .eq => 4
  | compare .notEq => 4
  | is _ => 4
  | like _ => 4
  | isIn _ => 4
  | compare _ => 5

/-- How tightly prefix `NOT` binds. -/
def notLevel : Nat := 3

/-- The comparisons and their symbols. -/
def comparisons : List (String × Comparison) :=
  [("=", .eq), ("<>", .notEq), ("<", .lt), ("<=", .ltEq), (">", .gt), (">=", .gtEq)]

/-- The operators that are words, longer ones first. -/
def wordOperators : List (List String × Infix) :=
  [(["OR"], or), (["AND"], and), (["IS", "NOT"], is true), (["IS"], is false),
    (["NOT", "LIKE"], like true), (["LIKE"], like false),
    (["NOT", "IN"], isIn true), (["IN"], isIn false)]

/-- The operator at the start of tokens. -/
def read? (tokens : List Token) : Option (Infix × List Token) :=
  match tokens with
  | .mark characters :: rest =>
      (comparisons.lookup characters).map fun comparison => (compare comparison, rest)
  | _ =>
      wordOperators.findSome? fun (words, operator) =>
        (keywords? words tokens).map fun rest => (operator, rest)

end Infix

/-! ## Phrases -/

/-- A condition as it is written. -/
inductive Phrase where
  | column (qualifier name : String)
  | placeholder (index : Nat)
  | word (letters : String)
  | group (inner : Phrase)
  | not (inner : Phrase)
  | binary (operator : Infix) (left right : Phrase)
  | isIn (negated : Bool) (left : Phrase) (members : List Phrase)

namespace Phrase

mutual

/-- Reads an operand: a value, a column, a negation or a phrase in parentheses. -/
def readOperand (negation : Nat) : Nat → List Token → Except SyntaxError (Phrase × List Token)
  | 0, tokens => unexpected tokens
  | steps + 1, tokens =>
      match tokens with
      | .placeholder index :: rest => .ok (placeholder index, rest)
      | .identifier qualifier :: .mark "." :: .identifier field :: rest =>
          .ok (column qualifier field, rest)
      | .mark "(" :: rest => do
          let (inner, rest) ← readPhrase negation steps 0 rest
          let rest ← expect (.mark ")") rest
          pure (group inner, rest)
      | .word letters :: rest =>
          if letters.toUpper = "NOT" then do
            let (inner, rest) ← readPhrase negation steps negation rest
            pure (not inner, rest)
          else .ok (word letters, rest)
      | tokens => unexpected tokens

/-- Reads a phrase whose operators all bind at least as tightly as `level`. -/
def readPhrase (negation : Nat) :
    Nat → Nat → List Token → Except SyntaxError (Phrase × List Token)
  | 0, _, tokens => unexpected tokens
  | steps + 1, level, tokens => do
      let (left, rest) ← readOperand negation steps tokens
      extend negation steps level left rest

/-- Extends a phrase by the operators that follow it and bind at least as tightly as
`level`. -/
def extend (negation : Nat) :
    Nat → Nat → Phrase → List Token → Except SyntaxError (Phrase × List Token)
  | 0, _, left, tokens => .ok (left, tokens)
  | steps + 1, level, left, tokens =>
      match Infix.read? tokens with
      | none => .ok (left, tokens)
      | some (operator, rest) =>
          if operator.level < level then .ok (left, tokens)
          else
            match operator with
            | .isIn negated => do
                let rest ← expect (.mark "(") rest
                let (members, rest) ← readMembers negation steps rest
                extend negation steps level (isIn negated left members) rest
            | _ => do
                let (right, rest) ← readPhrase negation steps (operator.level + 1) rest
                extend negation steps level (binary operator left right) rest

/-- Reads the members of a list up to its closing parenthesis. -/
def readMembers (negation : Nat) :
    Nat → List Token → Except SyntaxError (List Phrase × List Token)
  | 0, tokens => unexpected tokens
  | _ + 1, .mark ")" :: rest => .ok ([], rest)
  | steps + 1, tokens => do
      let (first, rest) ← readPhrase negation steps 0 tokens
      match rest with
      | .mark ")" :: rest => pure ([first], rest)
      | .mark "," :: rest => do
          let (others, rest) ← readMembers negation steps rest
          pure (first :: others, rest)
      | rest => unexpected rest

end

/-- Reads a phrase. Every third step takes a token. -/
def read (negation : Nat) (tokens : List Token) : Except SyntaxError (Phrase × List Token) :=
  readPhrase negation (3 * tokens.length + 3) 0 tokens

/-- The phrase that a whole text is. -/
def ofText? (negation : Nat) (text : String) : Option Phrase := do
  let tokens ← Token.ofText? text
  match read negation tokens with
  | .ok (phrase, []) => some phrase
  | _ => none

end Phrase

end TypedSql.Sql
