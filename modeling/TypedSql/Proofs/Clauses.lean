import TypedSql.Proofs.Scope

/-!
# The order of calls

A call of a builder is refused for its aliases only. If it registers an alias, this has to be
free, and after that every alias that it uses has to be known (`Select.Step.refusal?`). A call
that is not refused changes one clause of the select, in a way that depends on this clause alone
(`Select.Step.effect`).

So a sequence of calls that all answer leaves in each clause what the calls of this clause have
made of it (`Select.IsPart.foldl_effect`), and calls of different clauses may change places. A
join has to come before the calls that use its alias, and any later moment does as well: the
scope only grows. `Select.calls_commute` states both.
-/

set_option autoImplicit false

namespace TypedSql.Select

open Outcome

attribute [ext] Select

/-! ## What a call does -/

namespace Step

/-- The table that a call registers under its alias. -/
def table? : Step → Option AliasedTable
  | join _ table _ => some table
  | _ => none

/-- The aliases that a call uses, in the order in which they are looked up. -/
def owners : Step → List String
  | project outputs => outputs.map (·.column.owner)
  | projectColumns columns => columns.map (·.owner)
  | join _ _ on => on.columns.map (·.owner)
  | restrict condition => condition.columns.map (·.owner)
  | orderBy column _ => [column.owner]
  | withLimit _ => []
  | withOffset _ => []

/-- The scope with the alias that a call registers. -/
def register (scope : Dictionary String) (step : Step) : Dictionary String :=
  match step.table? with
  | some table => scope.insert table.aliasName table.declaredName
  | none => scope

/-- The alias that a call registers and that the scope has already. -/
def taken? (scope : Dictionary String) (step : Step) : Option String :=
  (step.table?.map (·.aliasName)).filter scope.contains

/-- Why a call is refused in a scope. -/
def refusal? (scope : Dictionary String) (step : Step) : Option ResolutionError :=
  match step.taken? scope with
  | some aliasName => some (.aliasTaken aliasName)
  | none => (refusals (step.register scope) step.owners).head?

/-- The select after a call that is not refused. -/
def effect (select : Select) : Step → Select
  | project outputs => { select with projection := outputs }
  | projectColumns columns => { select with projection := columns.map .ofColumn }
  | join kind table on =>
      { select with
        scope := select.scope.insert table.aliasName table.declaredName
        joins := select.joins ++ [⟨kind, table.declaredName, table.aliasName, on⟩] }
  | restrict condition =>
      { select with condition := some (.conjoin select.condition condition) }
  | orderBy column direction => { select with order := select.order ++ [⟨column, direction⟩] }
  | withLimit limit => { select with limit := some limit }
  | withOffset offset => { select with offset := some offset }

end Step

/-- What is checked before a call refuses it for the first alias that the scope does not know. -/
theorem bind_pure_of_checked {check : Except ResolutionError Unit} {scope : Dictionary String}
    {aliases : List String} {select : Select}
    (checked : check = answer (refusals scope aliases) ()) :
    (check >>= fun _ => pure select) =
      match (refusals scope aliases).head? with
      | some error => .error error
      | none => .ok select := by
  rw [checked]
  cases refusals scope aliases <;> rfl

/-- **A call answers with its effect, unless it is refused.** -/
theorem Step.apply_eq (select : Select) (step : Step) :
    step.apply select =
      match step.refusal? select.scope with
      | some error => .error error
      | none => .ok (step.effect select) := by
  cases step with
  | project outputs => exact bind_pure_of_checked (checkOutputs_eq_answer _ outputs)
  | projectColumns columns =>
      refine bind_pure_of_checked ((checkOutputs_eq_answer _ _).trans ?_)
      rw [List.map_map]
      rfl
  | join kind table on =>
      rw [apply, Select.join, refusal?, taken?]
      cases taken : select.scope.contains table.aliasName with
      | true =>
          simp only [table?, taken, Option.map_some, Option.filter_some, if_true]
          rfl
      | false =>
          simp only [table?, taken, Option.map_some, Option.filter_some, Bool.false_eq_true,
            if_false]
          exact bind_pure_of_checked (checkExpr_eq_answer _ on)
  | restrict condition => exact bind_pure_of_checked (checkExpr_eq_answer _ condition)
  | orderBy column direction => exact bind_pure_of_checked (checkAlias_eq_answer _ column.owner)
  | withLimit limit => rfl
  | withOffset offset => rfl

theorem Step.apply_eq_ok_iff {select next : Select} {step : Step} :
    step.apply select = .ok next ↔
      step.refusal? select.scope = none ∧ step.effect select = next := by
  rw [apply_eq]
  cases step.refusal? select.scope <;> simp

/-! ## Clauses -/

/-- The clauses of a select that calls write. -/
inductive Clause where
  | projection
  | join
  | condition
  | order
  | limit
  | offset
deriving DecidableEq, Repr

/-- The clause that a call writes. -/
def Step.clause : Step → Clause
  | project _ => .projection
  | projectColumns _ => .projection
  | join _ _ _ => .join
  | restrict _ => .condition
  | orderBy _ _ => .order
  | withLimit _ => .limit
  | withOffset _ => .offset

/-- A part of a select that depends on the calls of one clause: these make something of the part
as it was, whatever the rest of the select is, and other calls leave it alone. -/
structure IsPart {α : Type} (clause : Clause) (part : Select → α) : Prop where
  own : ∀ (step : Step) (one other : Select), part one = part other →
    part (step.effect one) = part (step.effect other)
  others : ∀ (step : Step) (select : Select), step.clause ≠ clause →
    part (step.effect select) = part select

/-- **The calls of its clause alone decide a part.** -/
theorem IsPart.foldl_effect {α : Type} {clause : Clause} {part : Select → α}
    (isPart : IsPart clause part) (steps : List Step) {one other : Select}
    (same : part one = part other) :
    part (steps.foldl Step.effect one) =
      part ((steps.filter (·.clause = clause)).foldl Step.effect other) := by
  induction steps generalizing one other with
  | nil => exact same
  | cons step rest ih =>
      rw [List.filter_cons]
      split
      · exact ih (isPart.own step one other same)
      · rename_i different
        exact ih ((isPart.others step one (by simpa using different)).trans same)

/-! The source is no call's to change, and belongs to any clause. -/

theorem isPart_source : IsPart .join source where
  own step one other same := by cases step <;> exact same
  others step select _ := by cases step <;> rfl

theorem isPart_scope : IsPart .join scope where
  own step one other same := by
    cases step with
    | join kind table on => exact congrArg (·.insert table.aliasName table.declaredName) same
    | _ => exact same
  others step select different := by
    cases step with
    | join => exact absurd rfl different
    | _ => rfl

theorem isPart_joins : IsPart .join joins where
  own step one other same := by
    cases step with
    | join kind table on => exact congrArg (· ++ _) same
    | _ => exact same
  others step select different := by
    cases step with
    | join => exact absurd rfl different
    | _ => rfl

theorem isPart_projection : IsPart .projection projection where
  own step one other same := by
    cases step with
    | project | projectColumns => rfl
    | _ => exact same
  others step select different := by
    cases step with
    | project | projectColumns => exact absurd rfl different
    | _ => rfl

theorem isPart_condition : IsPart .condition condition where
  own step one other same := by
    cases step with
    | restrict condition => exact congrArg (some <| Expr.conjoin · condition) same
    | _ => exact same
  others step select different := by
    cases step with
    | restrict => exact absurd rfl different
    | _ => rfl

theorem isPart_order : IsPart .order order where
  own step one other same := by
    cases step with
    | orderBy column direction => exact congrArg (· ++ _) same
    | _ => exact same
  others step select different := by
    cases step with
    | orderBy => exact absurd rfl different
    | _ => rfl

theorem isPart_limit : IsPart .limit limit where
  own step one other same := by
    cases step with
    | withLimit => rfl
    | _ => exact same
  others step select different := by
    cases step with
    | withLimit => exact absurd rfl different
    | _ => rfl

theorem isPart_offset : IsPart .offset offset where
  own step one other same := by
    cases step with
    | withOffset => rfl
    | _ => exact same
  others step select different := by
    cases step with
    | withOffset => exact absurd rfl different
    | _ => rfl

/-! ## Calls in another order -/

/-- The same calls in another order, which keeps the order of the calls of one clause. -/
def Rearranged (first second : List Step) : Prop :=
  ∀ clause : Clause, first.filter (·.clause = clause) = second.filter (·.clause = clause)

theorem IsPart.foldl_effect_eq {α : Type} {clause : Clause} {part : Select → α}
    (isPart : IsPart clause part) {first second : List Step}
    (rearranged : Rearranged first second) (select : Select) :
    part (first.foldl Step.effect select) = part (second.foldl Step.effect select) := by
  rw [isPart.foldl_effect first rfl, isPart.foldl_effect second rfl, rearranged clause]

/-- The effects of calls do not depend on the order of calls of different clauses. -/
theorem Rearranged.foldl_effect_eq {first second : List Step}
    (rearranged : Rearranged first second) (select : Select) :
    first.foldl Step.effect select = second.foldl Step.effect select := by
  ext1
  case scope => exact isPart_scope.foldl_effect_eq rearranged select
  case projection => exact isPart_projection.foldl_effect_eq rearranged select
  case source => exact isPart_source.foldl_effect_eq rearranged select
  case joins => exact isPart_joins.foldl_effect_eq rearranged select
  case condition => exact isPart_condition.foldl_effect_eq rearranged select
  case order => exact isPart_order.foldl_effect_eq rearranged select
  case limit => exact isPart_limit.foldl_effect_eq rearranged select
  case offset => exact isPart_offset.foldl_effect_eq rearranged select

/-! ## Calls that all answer -/

/-- The select that calls one after another make, if every one of them answers. -/
def build (select : Select) (steps : List Step) : Except ResolutionError Select :=
  steps.foldlM Step.apply select

theorem build_cons_eq_ok_iff {select final : Select} {step : Step} {rest : List Step} :
    select.build (step :: rest) = .ok final ↔
      ∃ next, step.apply select = .ok next ∧ next.build rest = .ok final := by
  rw [build, List.foldlM_cons]
  cases step.apply select <;> simp [bind, Except.bind, build]

/-- Calls that all answer have all their effects. -/
theorem foldl_effect_of_build {steps : List Step} {select final : Select}
    (answered : select.build steps = .ok final) : steps.foldl Step.effect select = final := by
  induction steps generalizing select with
  | nil => exact Except.ok.inj answered
  | cons step rest ih =>
      obtain ⟨next, stepped, later⟩ := build_cons_eq_ok_iff.mp answered
      obtain ⟨_, rfl⟩ := Step.apply_eq_ok_iff.mp stepped
      exact ih later

/-! ## The scope grows -/

theorem Step.mem_keys_effect (step : Step) (select : Select) {key : String}
    (known : key ∈ select.scope.keys) : key ∈ (step.effect select).scope.keys := by
  cases step with
  | join kind table on =>
      rw [← Dictionary.contains_iff_mem_keys] at known ⊢
      exact Dictionary.contains_insert.mpr (.inr known)
  | _ => exact known

/-- What is in scope stays in scope. -/
theorem mem_keys_of_build {steps : List Step} {select later : Select}
    (answered : select.build steps = .ok later) {key : String}
    (known : key ∈ select.scope.keys) : key ∈ later.scope.keys := by
  induction steps generalizing select with
  | nil => exact Except.ok.inj answered ▸ known
  | cons step rest ih =>
      obtain ⟨next, stepped, following⟩ := build_cons_eq_ok_iff.mp answered
      obtain ⟨_, rfl⟩ := Step.apply_eq_ok_iff.mp stepped
      exact ih following (step.mem_keys_effect select known)

/-- A call that registers no alias is not refused where all the aliases it uses are known. -/
theorem Step.refusal?_eq_none_iff {step : Step} (noJoin : step.clause ≠ .join)
    {scope : Dictionary String} :
    step.refusal? scope = none ↔ ∀ aliasName ∈ step.owners, aliasName ∈ scope.keys := by
  have unregistered : step.table? = none := by
    cases step with
    | join => exact absurd rfl noJoin
    | _ => rfl
  rw [refusal?, taken?, register, unregistered]
  exact List.head?_eq_none_iff.trans refusals_eq_nil_iff

/-! ## The main statement -/

/-- **Calls of different clauses may change places.** When two orders of the same calls, in
which the calls of one clause follow each other alike, both answer throughout, they make the
same select. And a call that answers and joins nothing still answers after any further calls
that do. -/
theorem calls_commute (select : Select) :
    (∀ first second one other, Rearranged first second →
      select.build first = .ok one → select.build second = .ok other →
        one = other ∧ ∀ dialect, (Statement.select one).compile dialect =
          (Statement.select other).compile dialect) ∧
    ∀ (step : Step) (next : Select), step.clause ≠ .join → step.apply select = .ok next →
      ∀ steps later, select.build steps = .ok later → ∃ after, step.apply later = .ok after := by
  refine ⟨fun first second one other rearranged built builtOther => ?_, ?_⟩
  · have same : one = other := by
      rw [← foldl_effect_of_build built, ← foldl_effect_of_build builtOther,
        rearranged.foldl_effect_eq select]
    exact ⟨same, fun dialect => by rw [same]⟩
  · intro step next noJoin answered steps later built
    obtain ⟨unrefused, _⟩ := Step.apply_eq_ok_iff.mp answered
    have known := (Step.refusal?_eq_none_iff noJoin).mp unrefused
    have stillKnown := (Step.refusal?_eq_none_iff noJoin).mpr fun aliasName used =>
      mem_keys_of_build built (known aliasName used)
    exact ⟨step.effect later, Step.apply_eq_ok_iff.mpr ⟨stillKnown, rfl⟩⟩

/-- The query of readings under the alias `r`. -/
def readings : Select := ofTable ⟨"readings", "r", [.reading]⟩

/-- Calls of four clauses, of which the condition needs the join. -/
def callsOnReadings : List Step :=
  [.withLimit 3, .join .inner ⟨"readings", "s", [Column.reading.withOwner "s"]⟩
      (.binary (.column .reading) .lt (.column (Column.reading.withOwner "s"))),
    .restrict (.isNotNull (.column (Column.reading.withOwner "s"))),
    .orderBy .reading .descending]

/-- The same calls in another order, with the join before the condition still. -/
def callsRearranged : List Step :=
  [.orderBy .reading .descending,
    .join .inner ⟨"readings", "s", [Column.reading.withOwner "s"]⟩
      (.binary (.column .reading) .lt (.column (Column.reading.withOwner "s"))),
    .restrict (.isNotNull (.column (Column.reading.withOwner "s"))), .withLimit 3]

/-- Both orders of calls make the same query, and the query can still be ordered by a column
that it could be ordered by before. -/
theorem calls_commute_readings :
    ∃ one other, readings.build callsOnReadings = .ok one ∧
      readings.build callsRearranged = .ok other ∧ one = other ∧
      ∃ after, one.orderBy .reading .ascending = .ok after := by
  have rearranged : Rearranged callsOnReadings callsRearranged := by
    intro clause
    cases clause <;> rfl
  have same := (calls_commute readings).1 _ _ _ _ rearranged rfl rfl
  refine ⟨_, _, rfl, rfl, same.1, ?_⟩
  exact (calls_commute readings).2 (.orderBy .reading .ascending) _ (by decide) rfl
    callsOnReadings _ rfl

end TypedSql.Select
