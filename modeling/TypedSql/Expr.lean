import TypedSql.Schema.Table

/-!
# Expressions

Conditions of queries and deletes. An expression is a column, a literal, an operator applied
to a left operand and something on its right, a conjunction or disjunction of any number of
expressions, or a negation.

The right of an operator is another expression, a list of values or a truth keyword, and
every operator can be written with each of the three: which of them an operator accepts is
checked when a statement is rendered. A literal is a value, and equality of expressions to
the application compares literals as `Value.equals` does.
-/

namespace TypedSql

set_option autoImplicit false

/-! ## Operators -/

/-- An operator with two operands. -/
inductive Operator where
  | eq
  | notEq
  | lt
  | ltEq
  | gt
  | gtEq
  | like
  | notLike
  | isIn
  | notIn
  | is
  | isNot
deriving DecidableEq, Repr

namespace Operator

/-- An operator in SQL. -/
def symbol : Operator → String
  | eq => "="
  | notEq => "<>"
  | lt => "<"
  | ltEq => "<="
  | gt => ">"
  | gtEq => ">="
  | like => "LIKE"
  | notLike => "NOT LIKE"
  | isIn => "IN"
  | notIn => "NOT IN"
  | is => "IS"
  | isNot => "IS NOT"

/-- Whether an operator asks for a member of a list. -/
def isMembership (operator : Operator) : Bool := operator = isIn ∨ operator = notIn

/-- Whether an operator asks for a truth value. -/
def isTruthTest (operator : Operator) : Bool := operator = is ∨ operator = isNot

end Operator

/-- The truth values that can be asked for. -/
inductive TruthKeyword where
  | true
  | false
  | null
deriving DecidableEq, Repr

/-- A truth keyword in SQL. -/
def TruthKeyword.symbol : TruthKeyword → String
  | true => "TRUE"
  | false => "FALSE"
  | null => "NULL"

/-- How a list of conditions is joined. -/
inductive Junction where
  | and
  | or
deriving DecidableEq, Repr

/-- The word between joined conditions. -/
def Junction.symbol : Junction → String
  | and => "AND"
  | or => "OR"

/-- The truth value of a junction of no conditions. -/
def Junction.neutral : Junction → TruthKeyword
  | and => .true
  | or => .false

/-! ## Expressions -/

/-- A condition, or an operand of one. -/
inductive Expr where
  | column (column : Column)
  | literal (value : Value)
  | binary (left : Expr) (operator : Operator) (right : Expr)
  | ofList (left : Expr) (operator : Operator) (values : List Value)
  | ofTruth (left : Expr) (operator : Operator) (keyword : TruthKeyword)
  | junction (kind : Junction) (members : List Expr)
  | not (inner : Expr)

namespace Expr

instance : Inhabited Expr := ⟨literal .null⟩

/-- The conjunction of conditions. -/
abbrev all (members : List Expr) : Expr := junction .and members

/-- The disjunction of conditions. -/
abbrev any (members : List Expr) : Expr := junction .or members

/-- Whether an operand has no value. -/
def isNull (operand : Expr) : Expr := ofTruth operand .is .null

/-- Whether an operand has a value. -/
def isNotNull (operand : Expr) : Expr := ofTruth operand .isNot .null

/-- Whether an expression is a single literal. -/
def isLiteral : Expr → Bool
  | literal _ => true
  | _ => false

mutual

/-- The columns of an expression from left to right. -/
def columns : Expr → List Column
  | column reference => [reference]
  | literal _ => []
  | binary left _ right => left.columns ++ right.columns
  | ofList left _ _ => left.columns
  | ofTruth left _ _ => left.columns
  | junction _ members => columnsOfAll members
  | not inner => inner.columns

/-- The columns of expressions from left to right. -/
def columnsOfAll : List Expr → List Column
  | [] => []
  | first :: rest => first.columns ++ columnsOfAll rest

end

mutual

/-- Equality of expressions to the application. -/
def equals : Expr → Expr → Bool
  | column one, column other => one.equals other
  | literal one, literal other => one.equals other
  | binary left operator right, binary left' operator' right' =>
      operator = operator' && left.equals left' && right.equals right'
  | ofList left operator values, ofList left' operator' values' =>
      operator = operator' && left.equals left' && values.length = values'.length &&
        (values.zip values').all fun (one, other) => one.equals other
  | ofTruth left operator keyword, ofTruth left' operator' keyword' =>
      operator = operator' && left.equals left' && keyword = keyword'
  | junction kind members, junction kind' members' =>
      kind = kind' && equalsAll members members'
  | not inner, not inner' => inner.equals inner'
  | _, _ => false

/-- Equality of lists of expressions to the application. -/
def equalsAll : List Expr → List Expr → Bool
  | [], [] => true
  | first :: rest, first' :: rest' => first.equals first' && equalsAll rest rest'
  | _, _ => false

end

theorem columnsOfAll_eq_flatMap (members : List Expr) :
    columnsOfAll members = members.flatMap columns := by
  induction members with
  | nil => rfl
  | cons first rest ih => simp [columnsOfAll, ih]

end Expr

end TypedSql
