import Mathlib.Data.List.Nodup
import TypedSql.Proofs.Faults

/-!
# Built statements stay in scope

A select is built from a table under an alias by any sequence of calls, of which a refused one
leaves the select as it was (`Select.run`). What every call preserves is `Select.Scoped`: the
source and the joins have different aliases, the scope knows exactly these and maps each to the
table that is written beside it, the condition of a join uses the source and the joins up to its
own, and everything else uses the source and any join.

A join registers its alias before it looks at the condition. That is why its own alias is in
scope there, and why a refusal has to leave the whole select behind.

`builders_keep_scope` states this of all built selects, with what follows for the check of
aliases and for rendering, and of all built deletions, which see one alias only.
-/

set_option autoImplicit false

namespace TypedSql

open Outcome

/-! ## Conditions added one after another -/

/-- The columns of two conditions in one conjunction are those of the first and then those of
the second. -/
theorem Expr.columns_conjoin (existing : Option Expr) (condition : Expr) :
    (Expr.conjoin existing condition).columns =
      existing.toList.flatMap Expr.columns ++ condition.columns := by
  have pair (first : Expr) :
      (Expr.all [first, condition]).columns = first.columns ++ condition.columns := by
    simp [columns, columnsOfAll]
  cases existing with
  | none => rfl
  | some existing =>
      cases existing with
      | junction kind members =>
          cases kind with
          | and => simp [conjoin, columns, columnsOfAll_eq_flatMap]
          | or => simpa [conjoin] using pair (.junction .or members)
      | _ => simpa [conjoin] using pair _

namespace Select

/-! ## Calls -/

/-- A call of a builder. -/
inductive Step where
  | project (outputs : List Output)
  | projectColumns (columns : List Column)
  | join (kind : JoinKind) (table : AliasedTable) (on : Expr)
  | restrict (condition : Expr)
  | orderBy (column : Column) (direction : Direction)
  | withLimit (limit : Int64)
  | withOffset (offset : Int64)

/-- What a call answers. -/
def Step.apply (select : Select) : Step → Except ResolutionError Select
  | project outputs => select.project outputs
  | projectColumns columns => select.projectColumns columns
  | join kind table on => select.join kind table on
  | restrict condition => select.restrict condition
  | orderBy column direction => select.orderBy column direction
  | withLimit limit => .ok (select.withLimit limit)
  | withOffset offset => .ok (select.withOffset offset)

/-- The select in use after a call, which is the same one if the call is refused. -/
def Step.next (select : Select) (step : Step) : Select :=
  match step.apply select with
  | .ok next => next
  | .error _ => select

/-- The select in use after calls one after another. -/
def run (select : Select) (steps : List Step) : Select := steps.foldl Step.next select

/-! ## The invariant -/

/-- The aliases under which a select has tables: that of the source and those of the joins. -/
def tableAliases (select : Select) : List String :=
  select.source :: select.joins.map (·.aliasName)

/-- A select whose source is the table of a name, and whose columns are all in scope. -/
structure Scoped (declaredName : String) (select : Select) : Prop where
  distinct : select.tableAliases.Nodup
  registered : ∀ key, key ∈ select.scope.keys ↔ key ∈ select.tableAliases
  source : select.scope.get? select.source = some declaredName
  joined : ∀ join ∈ select.joins, select.scope.get? join.aliasName = some join.declaredName
  on : ∀ index join, select.joins[index]? = some join → ∀ column ∈ join.on.columns,
    column.owner ∈ select.source :: (select.joins.take (index + 1)).map (·.aliasName)
  projection : ∀ output ∈ select.projection, output.column.owner ∈ select.tableAliases
  condition : ∀ column ∈ select.condition.toList.flatMap Expr.columns,
    column.owner ∈ select.tableAliases
  order : ∀ term ∈ select.order, term.column.owner ∈ select.tableAliases

variable {declaredName : String} {select next : Select}

/-- A check of aliases passes when the scope knows all of them. -/
theorem answer_refusals_eq_ok {scope : Dictionary String} {aliases : List String} :
    answer (refusals scope aliases) () = .ok () ↔ ∀ aliasName ∈ aliases, aliasName ∈ scope.keys := by
  rw [answer_eq_ok_iff, refusals_eq_nil_iff, and_iff_left rfl]

namespace Scoped

/-- A select starts in scope: the columns of a table under an alias are owned by the alias. -/
theorem ofTable (table : Table) (aliasName : String) :
    Scoped table.name (Select.ofTable (table.as aliasName)) where
  distinct := List.nodup_singleton _
  registered key := by
    rw [← Dictionary.contains_iff_mem_keys]
    show (Dictionary.empty.insert aliasName table.name).contains key = true ↔ key ∈ [aliasName]
    rw [Dictionary.contains_insert, Dictionary.contains_eq_isSome, Dictionary.get?_empty]
    simp
  source := by simp [Select.ofTable, Table.as, Dictionary.get?_insert]
  joined := by simp [Select.ofTable]
  on := by simp [Select.ofTable]
  projection := by
    intro output member
    simp only [Select.ofTable, Table.as, List.map_map, List.mem_map] at member
    obtain ⟨column, _, rfl⟩ := member
    exact List.mem_singleton.mpr rfl
  condition := by simp [Select.ofTable]
  order := by simp [Select.ofTable]

/-- Aliases that pass the check of a scoped select are those of its tables. -/
theorem mem_tableAliases (inScope : Scoped declaredName select) {aliases : List String}
    (checked : answer (refusals select.scope aliases) () = .ok ()) :
    ∀ aliasName ∈ aliases, aliasName ∈ select.tableAliases :=
  fun aliasName member =>
    (inScope.registered aliasName).mp (answer_refusals_eq_ok.mp checked _ member)

/-! ## What each call preserves -/

theorem project (inScope : Scoped declaredName select) {outputs : List Output}
    (answered : select.project outputs = .ok next) : Scoped declaredName next := by
  obtain ⟨_, checked, rfl⟩ := bind_pure_eq_ok.mp answered
  rw [checkOutputs_eq_answer] at checked
  have owners := inScope.mem_tableAliases checked
  exact { inScope with
    projection := fun output member => owners _ (List.mem_map.mpr ⟨output, member, rfl⟩) }

theorem restrict (inScope : Scoped declaredName select) {condition : Expr}
    (answered : select.restrict condition = .ok next) : Scoped declaredName next := by
  obtain ⟨_, checked, rfl⟩ := bind_pure_eq_ok.mp answered
  rw [checkExpr_eq_answer] at checked
  have owners := inScope.mem_tableAliases checked
  refine { inScope with condition := fun column member => ?_ }
  simp only [Option.toList_some, List.flatMap_singleton, Expr.columns_conjoin,
    List.mem_append] at member
  rcases member with earlier | added
  · exact inScope.condition column earlier
  · exact owners _ (List.mem_map.mpr ⟨column, added, rfl⟩)

theorem orderBy (inScope : Scoped declaredName select) {column : Column} {direction : Direction}
    (answered : select.orderBy column direction = .ok next) : Scoped declaredName next := by
  obtain ⟨_, checked, rfl⟩ := bind_pure_eq_ok.mp answered
  rw [checkOwner, checkAlias_eq_answer] at checked
  have owners := inScope.mem_tableAliases checked
  refine { inScope with order := fun term member => ?_ }
  rcases List.mem_append.mp member with earlier | added
  · exact inScope.order term earlier
  · rw [List.mem_singleton.mp added]
    exact owners _ (List.mem_singleton.mpr rfl)

/-- A join answers when its alias is free and its condition is in the scope that the alias has
been added to. -/
theorem join_eq_ok {kind : JoinKind} {table : AliasedTable} {on : Expr} :
    select.join kind table on = .ok next ↔
      table.aliasName ∉ select.scope.keys ∧
        (∀ column ∈ on.columns, column.owner = table.aliasName ∨
          column.owner ∈ select.scope.keys) ∧
        next = { select with
          scope := select.scope.insert table.aliasName table.declaredName
          joins := select.joins ++ [⟨kind, table.declaredName, table.aliasName, on⟩] } := by
  rw [← Dictionary.contains_iff_mem_keys, Select.join]
  cases taken : select.scope.contains table.aliasName with
  | true => simp [bind, Except.bind]
  | false =>
      have checked : checkExpr (select.scope.insert table.aliasName table.declaredName) on =
          .ok () ↔ ∀ column ∈ on.columns, column.owner = table.aliasName ∨
              column.owner ∈ select.scope.keys := by
        simp [checkExpr_eq_answer, answer_refusals_eq_ok, ← Dictionary.contains_iff_mem_keys,
          Dictionary.contains_insert]
      rw [← checked]
      refine bind_pure_eq_ok.trans ⟨?_, ?_⟩
      · rintro ⟨_, passed, rfl⟩
        exact ⟨Bool.false_ne_true, passed, rfl⟩
      · rintro ⟨_, passed, rfl⟩
        exact ⟨(), passed, rfl⟩

theorem join (inScope : Scoped declaredName select) {kind : JoinKind} {table : AliasedTable}
    {on : Expr} (answered : select.join kind table on = .ok next) :
    Scoped declaredName next := by
  obtain ⟨free, owners, rfl⟩ := join_eq_ok.mp answered
  have fresh : table.aliasName ∉ select.tableAliases :=
    fun member => free ((inScope.registered _).mpr member)
  have lookup (key : String) (member : key ∈ select.tableAliases) :
      (select.scope.insert table.aliasName table.declaredName).get? key =
        select.scope.get? key := by
    rw [Dictionary.get?_insert, if_neg]
    rintro rfl
    exact fresh member
  -- the aliases grow at their end, so what was in scope stays in scope
  have grown (key : String) (member : key ∈ select.tableAliases) :
      key ∈ select.tableAliases ++ [table.aliasName] :=
    List.mem_append_left _ member
  have aliases : tableAliases { select with
      scope := select.scope.insert table.aliasName table.declaredName
      joins := select.joins ++ [⟨kind, table.declaredName, table.aliasName, on⟩] } =
        select.tableAliases ++ [table.aliasName] := by
    simp [tableAliases]
  constructor
  case distinct =>
    rw [aliases]
    exact List.Nodup.append inScope.distinct (List.nodup_singleton _)
      (List.disjoint_singleton.mpr fresh)
  case registered =>
    intro key
    rw [aliases, ← Dictionary.contains_iff_mem_keys, Dictionary.contains_insert,
      Dictionary.contains_iff_mem_keys, inScope.registered key, List.mem_append,
      List.mem_singleton, or_comm]
  case source => exact (lookup _ List.mem_cons_self).trans inScope.source
  case joined =>
    intro added member
    rcases List.mem_append.mp member with earlier | last
    · exact (lookup _ (List.mem_cons_of_mem _ (List.mem_map.mpr ⟨added, earlier, rfl⟩))).trans
        (inScope.joined added earlier)
    · rw [List.mem_singleton.mp last]
      exact (Dictionary.get?_insert _ _ _ _).trans (if_pos rfl)
  case on =>
    intro index added found column member
    rcases Nat.lt_or_ge index select.joins.length with earlier | last
    · rw [List.getElem?_append_left earlier] at found
      have before := inScope.on index added found column member
      rwa [List.take_append_of_le_length (by omega)]
    · rw [List.getElem?_append_right last] at found
      rw [List.getElem?_singleton] at found
      split at found
      case isFalse => cases found
      cases found
      rw [List.take_of_length_le (by simp; omega)]
      have known : column.owner ∈ select.tableAliases ++ [table.aliasName] := by
        rcases owners column member with own | known
        · exact List.mem_append_right _ (List.mem_singleton.mpr own)
        · exact grown _ ((inScope.registered _).mp known)
      rwa [← aliases] at known
  case projection =>
    intro output member
    rw [aliases]
    exact grown _ (inScope.projection output member)
  case condition =>
    intro column member
    rw [aliases]
    exact grown _ (inScope.condition column member)
  case order =>
    intro term member
    rw [aliases]
    exact grown _ (inScope.order term member)

/-- **A call that answers keeps a select in scope.** -/
theorem apply (inScope : Scoped declaredName select) {step : Step}
    (answered : step.apply select = .ok next) : Scoped declaredName next := by
  cases step with
  | project outputs => exact inScope.project answered
  | projectColumns columns => exact inScope.project answered
  | join kind table on => exact inScope.join answered
  | restrict condition => exact inScope.restrict answered
  | orderBy column direction => exact inScope.orderBy answered
  | withLimit limit =>
      cases answered
      exact { inScope with }
  | withOffset offset =>
      cases answered
      exact { inScope with }

/-- **Any sequence of calls keeps a select in scope.** -/
theorem run (inScope : Scoped declaredName select) (steps : List Step) :
    Scoped declaredName (select.run steps) := by
  induction steps generalizing select with
  | nil => exact inScope
  | cons step rest ih =>
      refine ih ?_
      rw [Step.next]
      split
      · exact inScope.apply ‹_›
      · exact inScope

/-! ## What scope gives -/

/-- A scoped select uses no alias that its scope does not know. -/
theorem check (inScope : Scoped declaredName select) : select.check = .ok () := by
  rw [check_eq_answer]
  refine answer_refusals_eq_ok.mpr fun aliasName used => (inScope.registered aliasName).mpr ?_
  rcases mem_usedAliases.mp used with rfl | ⟨join, member, rfl | ⟨column, inOn, rfl⟩⟩ |
    ⟨output, member, rfl⟩ | ⟨column, member, rfl⟩ | ⟨term, member, rfl⟩
  · exact List.mem_cons_self
  · exact List.mem_cons_of_mem _ (List.mem_map.mpr ⟨join, member, rfl⟩)
  · obtain ⟨index, found⟩ := List.getElem?_of_mem member
    rcases List.mem_cons.mp (inScope.on index join found column inOn) with source | earlier
    · exact source ▸ List.mem_cons_self
    · obtain ⟨other, before, same⟩ := List.mem_map.mp earlier
      exact List.mem_cons_of_mem _ (List.mem_map.mpr ⟨other, List.mem_of_mem_take before, same⟩)
  · exact inScope.projection output member
  · exact inScope.condition column member
  · exact inScope.order term member

/-- The source of a scoped select is written with the name of its table. -/
theorem sourceTable (inScope : Scoped declaredName select) :
    select.sourceTable = declaredName := by
  rw [Select.sourceTable, inScope.source]
  rfl

end Scoped

/-! ## Failures of rendering -/

/-- Rendering a select that passes its check meets no unresolved name. -/
theorem compile_ne_resolution_of_check (checked : select.check = .ok ()) (dialect : Dialect)
    (error : ResolutionError) :
    (Statement.select select).compile dialect ≠ .error (.resolution error) := by
  intro failed
  have known : select.scopeFaults = [] := by
    rw [check_eq_answer, answer_eq_ok_iff] at checked
    rw [scopeFaults, checked.1, List.map_nil]
  rw [Statement.compile_eq_answer, answer_eq_error_iff] at failed
  have member : .resolution error ∈ select.faults := List.mem_of_mem_head? failed
  rw [faults, known, List.nil_append, List.mem_append] at member
  rcases member with projection | operands
  · split at projection <;> simp at projection
  · obtain ⟨condition, _, operand⟩ := List.mem_flatMap.mp operands
    obtain ⟨_, _, impossible⟩ := Expr.exists_mispaired_of_mem_faults operand
    cases impossible

end Select

/-! ## Deletions -/

namespace Delete

/-- The deletion in use after conditions one after another, of which a refused one leaves the
deletion as it was. -/
def run (delete : Delete) (conditions : List Expr) : Delete :=
  conditions.foldl (fun current condition =>
    match current.restrict condition with
    | .ok next => next
    | .error _ => current) delete

/-- A deletion whose condition uses the columns of its own alias only. -/
def Scoped (delete : Delete) : Prop :=
  ∀ column ∈ delete.condition.toList.flatMap Expr.columns, column.owner = delete.aliasName

theorem Scoped.restrict {delete next : Delete} (inScope : delete.Scoped) {condition : Expr}
    (answered : delete.restrict condition = .ok next) : next.Scoped := by
  rw [Delete.restrict] at answered
  split at answered
  · cases answered
  · rename_i own
    cases answered
    intro column member
    simp only [Option.toList_some, List.flatMap_singleton, Expr.columns_conjoin,
      List.mem_append] at member
    rcases member with earlier | added
    · exact inScope column earlier
    · simpa using List.find?_eq_none.mp own column added

/-- Any sequence of conditions keeps a deletion scoped. -/
theorem Scoped.run {delete : Delete} (inScope : delete.Scoped) (conditions : List Expr) :
    (delete.run conditions).Scoped := by
  induction conditions generalizing delete with
  | nil => exact inScope
  | cons condition rest ih =>
      rw [Delete.run, List.foldl_cons]
      refine ih ?_
      split
      · exact inScope.restrict ‹_›
      · exact inScope

end Delete

/-- **Statements built by any sequence of calls stay in scope.** A select that starts from a
table under an alias is scoped, passes its check of aliases, and never fails to render for an
unresolved name; a deletion uses the columns of its own alias only. -/
theorem builders_keep_scope (table : Table) (aliasName : String) :
    (∀ steps : List Select.Step,
      let select := (Select.ofTable (table.as aliasName)).run steps
      select.Scoped table.name ∧ select.sourceTable = table.name ∧ select.check = .ok () ∧
        ∀ dialect error, (Statement.select select).compile dialect ≠ .error (.resolution error)) ∧
    ∀ conditions : List Expr, ((Delete.ofTable (table.as aliasName)).run conditions).Scoped := by
  constructor
  · intro steps
    have inScope := (Select.Scoped.ofTable table aliasName).run steps
    exact ⟨inScope, inScope.sourceTable, inScope.check,
      Select.compile_ne_resolution_of_check inScope.check⟩
  · intro conditions
    have start : (Delete.ofTable (table.as aliasName)).Scoped := by
      intro column member
      cases member
    exact start.run conditions

end TypedSql
