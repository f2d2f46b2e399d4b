import TypedSql.Render.Error
import TypedSql.Render.Fragment

/-!
# Rendering expressions

An operator with its operands, and a junction of at least one condition, stand in parentheses.
A negation is `NOT` before a parenthesis. NULL and the truth values are words; every other
literal is bound, under the codec of its own column type. An empty conjunction is `TRUE` and an
empty disjunction `FALSE`.

Membership operators take a list, or an expression that is not a literal. Truth tests take a
truth keyword, and the other operators an expression. An operator is checked before its
operands, so the first error is that of the outermost and leftmost operator.
-/

namespace TypedSql

set_option autoImplicit false

open Fragment

/-- A literal in an expression. -/
def Value.fragment : Value → Except RenderError Fragment
  | null => .ok (word TruthKeyword.null.symbol)
  | bool true => .ok (word TruthKeyword.true.symbol)
  | bool false => .ok (word TruthKeyword.false.symbol)
  | value =>
      match value.columnType? with
      | none => .error (.operand (.untyped value.kind))
      | some type => do
          let stored ← encodeAt .literal type value
          pure (bound stored)

/-- A column qualified by its owner. -/
def Column.fragments (column : Column) : List Fragment :=
  [identifier column.owner, word ".", identifier column.sqlName]

/-- An operator between blanks. -/
def Operator.infixed (operator : Operator) : String := " " ++ operator.symbol ++ " "

namespace Expr

mutual

/-- The fragments of an expression. -/
def fragments : Expr → Except RenderError (List Fragment)
  | column reference => .ok reference.fragments
  | literal value => do
      let fragment ← value.fragment
      pure [fragment]
  | binary left operator right =>
      if operator.isTruthTest then .error (.operand (.mispaired operator .expression))
      else if operator.isMembership then
        if right.isLiteral then .error (.operand (.mispaired operator .singleLiteral))
        else do
          let before ← left.fragments
          let after ← right.fragments
          pure ([word "("] ++ before ++ [word (operator.infixed ++ "(")] ++ after ++ [word "))"])
      else do
        let before ← left.fragments
        let after ← right.fragments
        pure ([word "("] ++ before ++ [word operator.infixed] ++ after ++ [word ")"])
  | ofList left operator values =>
      if operator.isMembership then do
        let before ← left.fragments
        let members ← values.mapM (·.fragment)
        pure ([word "("] ++ before ++ [word (operator.infixed ++ "(")] ++
          separated "," (members.map fun member => [member]) ++ [word "))"])
      else .error (.operand (.mispaired operator .list))
  | ofTruth left operator keyword =>
      if operator.isTruthTest then do
        let before ← left.fragments
        pure ([word "("] ++ before ++ [word (operator.infixed ++ keyword.symbol), word ")"])
      else .error (.operand (.mispaired operator .truthKeyword))
  | junction kind members =>
      if members.isEmpty then .ok [word kind.neutral.symbol]
      else do
        let parts ← fragmentsOfAll members
        pure ([word "("] ++ separated (" " ++ kind.symbol ++ " ") parts ++ [word ")"])
  | not inner => do
      let inside ← inner.fragments
      pure ([word "NOT ("] ++ inside ++ [word ")"])

/-- The fragments of every one of a list of expressions. -/
def fragmentsOfAll : List Expr → Except RenderError (List (List Fragment))
  | [] => .ok []
  | first :: rest => do
      let part ← first.fragments
      let parts ← fragmentsOfAll rest
      pure (part :: parts)

end

end Expr

end TypedSql
