import TypedSql.Sql.Phrase

/-!
# Terms of SQL

A term is what the database makes of a phrase: what is compared, negated and joined, without
the parentheses.

Membership in an empty list is a constant as soon as it is read, whatever its operand, and a
conjunction with a constant false is that constant. The names in what is dropped are never
looked up.
-/

namespace TypedSql.Sql

set_option autoImplicit false

/-- A condition of a statement. -/
inductive Term where
  | null
  | constant (truth : Bool)
  | placeholder (index : Nat)
  | column (qualifier name : String)
  | name (letters : String)
  | compare (comparison : Comparison) (left right : Term)
  | is (negated : Bool) (left right : Term)
  | like (negated : Bool) (left pattern : Term)
  | isIn (negated : Bool) (left : Term) (members : List Term)
  | and (left right : Term)
  | or (left right : Term)
  | not (inner : Term)

namespace Infix

/-- Whether a term is the constant false. -/
def isFalse : Term → Bool
  | .constant false => true
  | _ => false

/-- The term of an operator whose right operand is a term. -/
def apply (operator : Infix) (left right : Term) : Term :=
  match operator with
  | or => .or left right
  | and => if isFalse left || isFalse right then .constant false else .and left right
  | compare comparison => .compare comparison left right
  | is negated => .is negated left right
  | like negated => .like negated left right
  | isIn negated => .isIn negated left [right]

/-- A member that is the only one. A truth value that is spelled out is then a constant. -/
def onlyMember : Term → Term
  | .name letters =>
      match [("TRUE", true), ("FALSE", false)].lookup letters.toUpper with
      | some truth => .constant truth
      | none => .name letters
  | other => other

/-- The term of a membership. -/
def member (negated : Bool) (left : Term) : List Term → Term
  | [] => .constant negated
  | [only] => .isIn negated left [onlyMember only]
  | members => .isIn negated left members

end Infix

namespace Phrase

mutual

/-- The term that a phrase stands for. -/
def term : Phrase → Term
  | column qualifier name => .column qualifier name
  | placeholder index => .placeholder index
  | word letters => if letters.toUpper = "NULL" then .null else .name letters
  | group inner => inner.term
  | not inner => .not inner.term
  | binary operator left right => operator.apply left.term right.term
  | isIn negated left members => Infix.member negated left.term (termsOfAll members)

/-- The terms that phrases stand for. -/
def termsOfAll : List Phrase → List Term
  | [] => []
  | first :: rest => first.term :: termsOfAll rest

end

end Phrase

/-- Reads a term. -/
def Term.read (tokens : List Token) : Except SyntaxError (Term × List Token) := do
  let (phrase, rest) ← Phrase.read Infix.notLevel tokens
  pure (phrase.term, rest)

end TypedSql.Sql
