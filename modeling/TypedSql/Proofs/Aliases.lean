import TypedSql.Proofs.Lookup
import TypedSql.Proofs.Outcome
import TypedSql.Statement.Select

/-!
# The check of aliases

The check of a select goes through its parts and stops at the first alias that the scope does not
know. Here the aliases are listed apart from the check. `Expr.nodes` lists all that an expression is
made of, and `Expr.aliases` the owners of the columns among the nodes. `Select.usedAliases` lists the
aliases of a select: that of its source, then those of each join, which are its own and those of its
condition, then those of the outputs, of the condition and of the order.

The check refuses the first of these aliases that the scope does not know, and passes when it knows
all of them (`Select.check_eq_answer`).
-/

set_option autoImplicit false

namespace TypedSql

open Outcome

/-! ## Expressions -/

namespace Expr

mutual

/-- An expression and all that it is made of, an operator before its operands and the left
operand before the right one. -/
def nodes : Expr → List Expr
  | column reference => [column reference]
  | literal value => [literal value]
  | binary left operator right => binary left operator right :: (left.nodes ++ right.nodes)
  | ofList left operator values => ofList left operator values :: left.nodes
  | ofTruth left operator keyword => ofTruth left operator keyword :: left.nodes
  | junction kind members => junction kind members :: nodesOfAll members
  | not inner => not inner :: inner.nodes

/-- All that a list of expressions is made of. -/
def nodesOfAll : List Expr → List Expr
  | [] => []
  | first :: rest => first.nodes ++ nodesOfAll rest

end

/-- The column that a node is. -/
def column? : Expr → Option Column
  | column reference => some reference
  | _ => none

/-- The aliases of an expression, which are those of the columns among its nodes. -/
def aliases (e : Expr) : List String := (e.nodes.filterMap column?).map (·.owner)

mutual

/-- The columns among the nodes of an expression are its columns from left to right. -/
theorem filterMap_column?_nodes : ∀ e : Expr, e.nodes.filterMap column? = e.columns
  | column _ => rfl
  | literal _ => rfl
  | binary left _ right => by
      rw [nodes, List.filterMap_cons_none rfl, List.filterMap_append,
        filterMap_column?_nodes left, filterMap_column?_nodes right, columns]
  | ofList left _ _ => by
      rw [nodes, List.filterMap_cons_none rfl, filterMap_column?_nodes left, columns]
  | ofTruth left _ _ => by
      rw [nodes, List.filterMap_cons_none rfl, filterMap_column?_nodes left, columns]
  | junction _ members => by
      rw [nodes, List.filterMap_cons_none rfl, filterMap_column?_nodesOfAll members, columns]
  | not inner => by
      rw [nodes, List.filterMap_cons_none rfl, filterMap_column?_nodes inner, columns]

theorem filterMap_column?_nodesOfAll : ∀ members : List Expr,
    (nodesOfAll members).filterMap column? = columnsOfAll members
  | [] => rfl
  | first :: rest => by
      rw [nodesOfAll, List.filterMap_append, filterMap_column?_nodes first,
        filterMap_column?_nodesOfAll rest, columnsOfAll]

end

theorem aliases_eq_map_columns (e : Expr) : e.aliases = e.columns.map (·.owner) := by
  rw [aliases, filterMap_column?_nodes]

theorem mem_aliases {e : Expr} {aliasName : String} :
    aliasName ∈ e.aliases ↔ ∃ column ∈ e.columns, column.owner = aliasName := by
  rw [aliases_eq_map_columns, List.mem_map]

end Expr

/-! ## Selects -/

namespace Select

/-- The aliases of a joined table: its own and then those of its condition. -/
def joinAliases (join : Join) : List String := join.aliasName :: join.on.aliases

/-- The aliases that a select uses: that of the source, then those of the joins, of the outputs,
of the condition and of the order. -/
def usedAliases (select : Select) : List String :=
  [select.source] ++ select.joins.flatMap joinAliases ++
    select.projection.map (·.column.owner) ++ select.condition.toList.flatMap Expr.aliases ++
    select.order.map (·.column.owner)

theorem mem_usedAliases {select : Select} {aliasName : String} :
    aliasName ∈ select.usedAliases ↔ aliasName = select.source ∨
      (∃ join ∈ select.joins, aliasName = join.aliasName ∨
        ∃ column ∈ join.on.columns, column.owner = aliasName) ∨
      (∃ output ∈ select.projection, output.column.owner = aliasName) ∨
      (∃ column ∈ select.condition.toList.flatMap Expr.columns, column.owner = aliasName) ∨
      ∃ term ∈ select.order, term.column.owner = aliasName := by
  have condition : aliasName ∈ select.condition.toList.flatMap Expr.aliases ↔
      ∃ column ∈ select.condition.toList.flatMap Expr.columns, column.owner = aliasName := by
    cases select.condition <;> simp [Expr.mem_aliases]
  rw [← condition]
  simp [usedAliases, joinAliases, Expr.mem_aliases]

/-! ### Refusals -/

/-- The refusals of the aliases that a scope does not know, one after another. -/
def refusals (scope : Dictionary String) (aliases : List String) : List ResolutionError :=
  (aliases.filter (!scope.contains ·)).map .unregistered

theorem refusals_append (scope : Dictionary String) (first second : List String) :
    refusals scope (first ++ second) = refusals scope first ++ refusals scope second := by
  rw [refusals, List.filter_append, List.map_append]
  rfl

theorem refusals_flatMap {α : Type} (scope : Dictionary String) (aliases : α → List String)
    (members : List α) :
    (members.flatMap fun member => refusals scope (aliases member)) =
      refusals scope (members.flatMap aliases) := by
  induction members with
  | nil => rfl
  | cons first rest ih => rw [List.flatMap_cons, List.flatMap_cons, refusals_append, ih]

theorem refusals_eq_nil_iff {scope : Dictionary String} {aliases : List String} :
    refusals scope aliases = [] ↔ ∀ aliasName ∈ aliases, aliasName ∈ scope.keys := by
  simp [refusals, ← Dictionary.contains_iff_mem_keys]

/-! ### The check -/

theorem checkAlias_eq_answer (scope : Dictionary String) (aliasName : String) :
    checkAlias scope aliasName = answer (refusals scope [aliasName]) () := by
  rw [checkAlias, refusals, List.filter_cons]
  cases scope.contains aliasName <;> rfl

/-- A check of the columns of members refuses their aliases one after another. -/
theorem forM_checkOwner {α : Type} (scope : Dictionary String) (column : α → Column)
    (members : List α) :
    (members.forM fun member => checkOwner scope (column member)) =
      answer (refusals scope (members.map fun member => (column member).owner)) () := by
  rw [List.map_eq_flatMap, ← refusals_flatMap]
  exact forM_answer (fun member => checkAlias_eq_answer scope (column member).owner) members

theorem checkExpr_eq_answer (scope : Dictionary String) (e : Expr) :
    checkExpr scope e = answer (refusals scope (e.columns.map (·.owner))) () :=
  forM_checkOwner scope id e.columns

theorem checkOutputs_eq_answer (scope : Dictionary String) (outputs : List Output) :
    checkOutputs scope outputs =
      answer (refusals scope (outputs.map (·.column.owner))) () :=
  forM_checkOwner scope Output.column outputs

/-- The check of a select refuses the first of its aliases that the scope does not know. -/
theorem check_eq_answer (select : Select) :
    select.check = answer (refusals select.scope select.usedAliases) () := by
  have joins : (select.joins.forM fun join => do
      checkAlias select.scope join.aliasName
      checkExpr select.scope join.on) =
        answer (refusals select.scope (select.joins.flatMap joinAliases)) () := by
    rw [← refusals_flatMap]
    refine forM_answer (fun join => ?_) select.joins
    have own : joinAliases join = [join.aliasName] ++ join.on.columns.map (·.owner) := by
      rw [joinAliases, Expr.aliases_eq_map_columns]
      rfl
    rw [checkAlias_eq_answer, checkExpr_eq_answer, own, refusals_append]
    exact bind_answer rfl
  have condition : select.condition.forM (checkExpr select.scope) =
      answer (refusals select.scope (select.condition.toList.flatMap Expr.aliases)) () := by
    cases select.condition with
    | none => rfl
    | some condition =>
        rw [Option.toList_some, List.flatMap_singleton, Expr.aliases_eq_map_columns]
        exact checkExpr_eq_answer select.scope condition
  rw [check, checkAlias_eq_answer, joins, checkOutputs_eq_answer, condition, forM_checkOwner,
    usedAliases]
  simp only [refusals_append, List.append_assoc]
  exact bind_answer (bind_answer (bind_answer (bind_answer rfl)))

end Select

end TypedSql
