import Mathlib.Logic.Equiv.Basic
import TypedSql.Proofs.Clauses
import TypedSql.Proofs.Template

/-!
# Aliases are arbitrary names

Calls of a builder compare aliases with each other and with nothing else. So calls that are made
under other aliases, different ones for different ones, go as the first ones did. A refused call
is refused for the same reason under the new aliases, and a call that answers makes the query of
the first call under the new aliases (`Select.Renames.apply`). By induction this holds after any
calls (`Select.Renames.run`), and for deletions alike.

Queries that differ in their aliases fail alike, or fill the same template
(`Select.Renames.compile`).
-/

set_option autoImplicit false

namespace TypedSql

open Outcome

/-! ## The same outcome under other aliases -/

/-- Two computations that both answer, or both fail for corresponding reasons. -/
def Outcome.Alike {ε α β : Type} (failure : ε → ε) (results : α → β → Prop) :
    Except ε α → Except ε β → Prop
  | .ok one, .ok other => results one other
  | .error error, .error error' => error' = failure error
  | _, _ => False

namespace Outcome.Alike

variable {ε α β : Type} {failure : ε → ε} {results : α → β → Prop} {one : α} {other : β}

theorem answer {faults : List ε} (related : faults = [] → results one other) :
    Alike failure results (answer faults one) (answer (faults.map failure) other) := by
  cases faults with
  | nil => exact related rfl
  | cons error others => exact rfl

/-- What is in use afterwards is related, if a failure leaves everything as it was. -/
theorem getD {first : Except ε α} {second : Except ε β}
    (alike : Alike failure results first second) (kept : results one other) :
    results (first.toOption.getD one) (second.toOption.getD other) := by
  cases first with
  | error error =>
      cases second with
      | error error' => exact kept
      | ok next => cases alike
  | ok next =>
      cases second with
      | error error' => cases alike
      | ok next' => exact alike

end Outcome.Alike

section

variable (rename : String → String)

/-- The same refusal under new aliases. -/
def ResolutionError.renamed : ResolutionError → ResolutionError
  | unknownColumn owner column => unknownColumn (rename owner) column
  | aliasTaken aliasName => aliasTaken (rename aliasName)
  | unregistered aliasName => unregistered (rename aliasName)
  | outsideDelete owner column aliasName =>
      outsideDelete (rename owner) column (rename aliasName)

/-- The same failure under new aliases. -/
def RenderError.renamed : RenderError → RenderError
  | resolution error => resolution (error.renamed rename)
  | empty (.noProjection source) => empty (.noProjection (rename source))
  | error => error

/-- Two ways to render that differ in aliases only. Both fail for corresponding reasons, or both
fill the template, one with the aliases as they are and the other with the new ones, and have
the same parameters. -/
def SameButAliases (dialect : Dialect) (template : List Slot) :
    Except RenderError Compiled → Except RenderError Compiled → Prop :=
  Alike (·.renamed rename) fun one other =>
    one = .ofFragments dialect (template.map (Slot.fill id)) ∧
      other = .ofFragments dialect (template.map (Slot.fill rename)) ∧
        one.parameters = other.parameters

end

variable {rename : String → String}

theorem Slot.parameter?_fill (slot : Slot) :
    (slot.fill rename).parameter? = (slot.fill id).parameter? := by
  cases slot <;> rfl

/-- No fault of an expression names an alias. -/
theorem Expr.map_renamed_faults (condition : Expr) :
    condition.faults.map (·.renamed rename) = condition.faults := by
  rw [faults, List.map_map]
  rfl

/-- A statement that writes the filled template and has corresponding faults renders alike. -/
theorem Statement.sameButAliases {dialect : Dialect} {template : List Slot}
    {statement other : Statement}
    (faults : other.faults = statement.faults.map (·.renamed rename))
    (written : statement.faults = [] →
      statement.written dialect = template.map (Slot.fill id) ∧
        other.written dialect = template.map (Slot.fill rename)) :
    SameButAliases rename dialect template (statement.compile dialect)
      (other.compile dialect) := by
  rw [compile_eq_answer, compile_eq_answer, faults]
  refine Alike.answer fun faultless => ?_
  obtain ⟨one, renamed⟩ := written faultless
  refine ⟨by rw [one], by rw [renamed], ?_⟩
  rw [one, renamed]
  simp only [Compiled.ofFragments, List.filterMap_map, Function.comp_def, Slot.parameter?_fill]

/-! ## Scopes under other aliases -/

namespace Dictionary.Rekeyed

variable {scope other : Dictionary String}

theorem contains (rekeyed : scope.Rekeyed rename other) (key : String) :
    other.contains (rename key) = scope.contains key := by
  rw [contains_eq_isSome, contains_eq_isSome, rekeyed]

/-- Different keys stay different, so a new entry hides nothing else. -/
theorem insert (injective : Function.Injective rename) (rekeyed : scope.Rekeyed rename other)
    (key value : String) :
    (scope.insert key value).Rekeyed rename (other.insert (rename key) value) := by
  intro asked
  rw [get?_insert, get?_insert, rekeyed]
  by_cases same : asked = key
  · rw [if_pos same, if_pos (congrArg rename same)]
  · rw [if_neg same, if_neg fun equal => same (injective equal)]

theorem unknown (rekeyed : scope.Rekeyed rename other) :
    (!other.contains ·) ∘ rename = (!scope.contains ·) := by
  funext key
  exact congrArg (!·) (rekeyed.contains key)

/-- A scope under new aliases refuses the new names of the aliases that the first one refuses. -/
theorem refusals (rekeyed : scope.Rekeyed rename other) (aliases : List String) :
    Select.refusals other (aliases.map rename) =
      (Select.refusals scope aliases).map (·.renamed rename) := by
  rw [Select.refusals, Select.refusals, List.filter_map, rekeyed.unknown, List.map_map,
    List.map_map]
  rfl

end Dictionary.Rekeyed

/-! ## Queries -/

namespace Select

/-- The same call under new aliases. -/
def Step.renamed (rename : String → String) : Step → Step
  | project outputs => project (outputs.map (·.renamed rename))
  | projectColumns columns => projectColumns (columns.map (·.renamed rename))
  | join kind table on => join kind (table.renamed rename) (on.renamed rename)
  | restrict condition => restrict (condition.renamed rename)
  | orderBy column direction => orderBy (column.renamed rename) direction
  | withLimit limit => withLimit limit
  | withOffset offset => withOffset offset

namespace Step

theorem table?_renamed (step : Step) :
    (step.renamed rename).table? = step.table?.map (·.renamed rename) := by
  cases step <;> rfl

theorem owners_renamed (step : Step) :
    (step.renamed rename).owners = step.owners.map rename := by
  have columns (e : Expr) : (e.renamed rename).columns.map (·.owner) =
      (e.columns.map (·.owner)).map rename := by
    rw [Expr.columns_renamed, Column.owners_renamed]
  cases step with
  | project outputs => simp [renamed, owners, Output.renamed, Column.renamed, Column.withOwner]
  | projectColumns columns => exact Column.owners_renamed rename columns
  | join kind table on => exact columns on
  | restrict condition => exact columns condition
  | orderBy column direction => rfl
  | withLimit limit => rfl
  | withOffset offset => rfl

variable {scope other : Dictionary String}

theorem register_renamed (injective : Function.Injective rename)
    (rekeyed : scope.Rekeyed rename other) (step : Step) :
    (step.register scope).Rekeyed rename ((step.renamed rename).register other) := by
  rw [register, register, table?_renamed]
  cases step.table? with
  | none => exact rekeyed
  | some table => exact rekeyed.insert injective table.aliasName table.declaredName

theorem taken?_renamed (rekeyed : scope.Rekeyed rename other) (step : Step) :
    (step.renamed rename).taken? other = (step.taken? scope).map rename := by
  rw [taken?, taken?, table?_renamed]
  cases step.table? with
  | none => rfl
  | some table =>
      simp only [Option.map_some, Option.filter_some, AliasedTable.renamed, rekeyed.contains]
      split <;> rfl

/-- **A call is refused under new aliases for the same reason.** -/
theorem refusal?_renamed (injective : Function.Injective rename)
    (rekeyed : scope.Rekeyed rename other) (step : Step) :
    (step.renamed rename).refusal? other =
      (step.refusal? scope).map (·.renamed rename) := by
  rw [refusal?, refusal?, taken?_renamed rekeyed]
  cases step.taken? scope with
  | some aliasName => rfl
  | none =>
      have refused := (register_renamed injective rekeyed step).refusals step.owners
      simp only [Option.map_none, owners_renamed, refused, List.head?_map]

theorem next_eq_getD (select : Select) (step : Step) :
    step.next select = (step.apply select).toOption.getD select := by
  rw [next]
  cases step.apply select <;> rfl

end Step

namespace Renames

variable {select other : Select}

theorem ofTable (injective : Function.Injective rename) (table : AliasedTable) :
    Renames rename (Select.ofTable table) (Select.ofTable (table.renamed rename)) where
  scope := Dictionary.Rekeyed.insert injective (fun _ => rfl) _ _
  projection := by
    simp [Select.ofTable, AliasedTable.renamed, Output.ofColumn, Output.renamed, Column.renamed,
      Column.withOwner]
  source := rfl
  joins := rfl
  condition := rfl
  order := rfl
  limit := rfl
  offset := rfl

/-- **Calls under new aliases have the same effect under new aliases.** -/
theorem effect (injective : Function.Injective rename) (renames : Renames rename select other)
    (step : Step) : Renames rename (step.effect select) ((step.renamed rename).effect other) := by
  cases step with
  | project outputs => exact { renames with projection := rfl }
  | projectColumns columns =>
      refine { renames with projection := ?_ }
      simp [Step.effect, Step.renamed, Output.ofColumn, Output.renamed, Column.renamed,
        Column.withOwner]
  | join kind table on =>
      exact { renames with
        scope := renames.scope.insert injective table.aliasName table.declaredName
        joins := by simp [Step.effect, Step.renamed, renames.joins, Join.renamed,
          AliasedTable.renamed] }
  | restrict condition =>
      refine { renames with condition := ?_ }
      simp [Step.effect, Step.renamed, renames.condition, Expr.conjoin_renamed]
  | orderBy column direction =>
      refine { renames with order := ?_ }
      simp [Step.effect, Step.renamed, renames.order, OrderTerm.renamed]
  | withLimit limit => exact { renames with limit := rfl }
  | withOffset offset => exact { renames with offset := rfl }

/-- **Calls under new aliases answer when the first ones do.** -/
theorem apply (injective : Function.Injective rename) (renames : Renames rename select other)
    (step : Step) :
    Alike (·.renamed rename) (Renames rename) (step.apply select)
      ((step.renamed rename).apply other) := by
  rw [Step.apply_eq, Step.apply_eq, Step.refusal?_renamed injective renames.scope]
  cases step.refusal? select.scope with
  | some error => exact rfl
  | none => exact renames.effect injective step

theorem next (injective : Function.Injective rename) (renames : Renames rename select other)
    (step : Step) : Renames rename (step.next select) ((step.renamed rename).next other) := by
  rw [Step.next_eq_getD, Step.next_eq_getD]
  exact (renames.apply injective step).getD renames

/-- **Any sequence of calls under new aliases makes the query under new aliases.** -/
theorem run (injective : Function.Injective rename) (renames : Renames rename select other)
    (steps : List Step) :
    Renames rename (select.run steps) (other.run (steps.map (·.renamed rename))) := by
  induction steps generalizing select other with
  | nil => exact renames
  | cons step rest ih => exact ih (renames.next injective step)

/-! ### Rendering -/

theorem usedAliases (renames : Renames rename select other) :
    other.usedAliases = select.usedAliases.map rename := by
  have aliases (e : Expr) : (e.renamed rename).aliases = e.aliases.map rename := by
    rw [Expr.aliases_eq_map_columns, Expr.aliases_eq_map_columns, Expr.columns_renamed,
      Column.owners_renamed]
  have joins : (select.joins.map (·.renamed rename)).flatMap joinAliases =
      (select.joins.flatMap joinAliases).map rename := by
    rw [List.flatMap_map, List.map_flatMap]
    refine List.flatMap_congr fun join _ => ?_
    rw [joinAliases, joinAliases, Join.renamed, aliases, List.map_cons]
  have condition : (select.condition.map (·.renamed rename)).toList.flatMap Expr.aliases =
      (select.condition.toList.flatMap Expr.aliases).map rename := by
    cases select.condition with
    | none => rfl
    | some condition =>
        simp only [Option.map_some, Option.toList_some, List.flatMap_singleton, aliases]
  rw [Select.usedAliases, Select.usedAliases, renames.source, renames.joins, renames.projection,
    renames.condition, renames.order, joins, condition]
  simp [Output.renamed, OrderTerm.renamed, Column.renamed, Column.withOwner, Function.comp_def]

theorem scopeFaults (renames : Renames rename select other) :
    other.scopeFaults = select.scopeFaults.map (·.renamed rename) := by
  rw [Select.scopeFaults, Select.scopeFaults, renames.usedAliases, renames.scope.refusals,
    List.map_map, List.map_map]
  rfl

theorem faults (renames : Renames rename select other) :
    other.faults = select.faults.map (·.renamed rename) := by
  have conditions : other.conditions = select.conditions.map (·.renamed rename) := by
    rw [conditions, conditions, renames.joins, renames.condition]
    simp [Join.renamed, Option.toList_map]
  have operands : other.conditions.flatMap Expr.faults =
      (select.conditions.flatMap Expr.faults).map (·.renamed rename) := by
    rw [conditions, List.flatMap_map, List.map_flatMap]
    exact List.flatMap_congr fun condition _ => by
      rw [Expr.faults_renamed, Expr.map_renamed_faults]
  rw [Select.faults, Select.faults, renames.scopeFaults, operands, renames.projection,
    renames.source, List.isEmpty_map]
  split <;> simp [RenderError.renamed]

/-- **Queries that differ in aliases render alike.** -/
theorem compile (renames : Renames rename select other) (dialect : Dialect) :
    SameButAliases rename dialect select.template ((Statement.select select).compile dialect)
      ((Statement.select other).compile dialect) := by
  refine Statement.sameButAliases renames.faults fun faultless => ?_
  have known : select.source ∈ select.scope.keys :=
    (faults_eq_nil_iff.mp faultless).1 _ List.mem_cons_self
  exact ⟨(Renames.refl select).written known, renames.written known⟩

end Renames

end Select

/-! ## Deletions -/

namespace Delete

/-- A condition under new aliases is refused for the same reason, or makes the deletion under
new aliases. -/
theorem restrict_renamed (injective : Function.Injective rename) (delete : Delete)
    (condition : Expr) :
    Alike (·.renamed rename) (fun next other => other = next.renamed rename)
      (delete.restrict condition)
      ((delete.renamed rename).restrict (condition.renamed rename)) := by
  have outside : (condition.renamed rename).columns.find?
      (·.owner ≠ (delete.renamed rename).aliasName) =
        (condition.columns.find? (·.owner ≠ delete.aliasName)).map (·.renamed rename) := by
    rw [Expr.columns_renamed, List.find?_map]
    congr 2
    funext column
    simp [renamed, Column.renamed, Column.withOwner, injective.eq_iff]
  rw [restrict, restrict, outside]
  cases condition.columns.find? (·.owner ≠ delete.aliasName) with
  | some column => exact rfl
  | none => simp [Alike, renamed, Expr.conjoin_renamed]

theorem run_cons (delete : Delete) (condition : Expr) (rest : List Expr) :
    delete.run (condition :: rest) =
      ((delete.restrict condition).toOption.getD delete).run rest := by
  rw [run, List.foldl_cons]
  cases delete.restrict condition <;> rfl

theorem run_renamed (injective : Function.Injective rename) (delete : Delete)
    (conditions : List Expr) :
    (delete.renamed rename).run (conditions.map (·.renamed rename)) =
      (delete.run conditions).renamed rename := by
  induction conditions generalizing delete with
  | nil => rfl
  | cons condition rest ih =>
      rw [List.map_cons, run_cons, run_cons,
        (delete.restrict_renamed injective condition).getD rfl, ih]

/-- **Deletions that differ in aliases render alike.** -/
theorem compile_renamed (delete : Delete) (dialect : Dialect) :
    SameButAliases rename dialect delete.template
      ((Statement.delete delete).compile dialect)
      ((Statement.delete (delete.renamed rename)).compile dialect) := by
  refine Statement.sameButAliases ?_ fun _ => ⟨?_, delete.written_renamed rename⟩
  · show (delete.renamed rename).faults = delete.faults.map (·.renamed rename)
    rw [faults, faults, renamed]
    cases delete.condition with
    | none => rfl
    | some condition => simp [Expr.faults_renamed, Expr.map_renamed_faults]
  · have same := delete.written_renamed id
    rwa [renamed_id] at same

end Delete

/-- **Aliases are arbitrary names.** Under other aliases, different ones for different ones, the
same calls are refused, for corresponding reasons, and the others make the same query under
these aliases. It fails for a corresponding reason, or has the same parameters and the text of
the same template. So it is with deletions. -/
theorem aliases_are_arbitrary {rename : String → String} (injective : Function.Injective rename)
    (table : AliasedTable) :
    (∀ steps : List Select.Step,
      let select := (Select.ofTable table).run steps
      let other := (Select.ofTable (table.renamed rename)).run (steps.map (·.renamed rename))
      (∀ step : Select.Step, Alike (·.renamed rename) (Select.Renames rename)
        (step.apply select) ((step.renamed rename).apply other)) ∧
      ∀ dialect, SameButAliases rename dialect select.template
        ((Statement.select select).compile dialect)
        ((Statement.select other).compile dialect)) ∧
    ∀ conditions : List Expr,
      let delete := (Delete.ofTable table).run conditions
      let other :=
        (Delete.ofTable (table.renamed rename)).run (conditions.map (·.renamed rename))
      (∀ condition : Expr, Alike (·.renamed rename)
        (fun next renamed => renamed = next.renamed rename)
        (delete.restrict condition) (other.restrict (condition.renamed rename))) ∧
      ∀ dialect, SameButAliases rename dialect delete.template
        ((Statement.delete delete).compile dialect)
        ((Statement.delete other).compile dialect) := by
  constructor
  · intro steps select other
    have renames : Select.Renames rename select other :=
      (Select.Renames.ofTable injective table).run injective steps
    exact ⟨renames.apply injective, renames.compile⟩
  · intro conditions delete other
    have renamed : other = delete.renamed rename :=
      Delete.run_renamed injective (Delete.ofTable table) conditions
    rw [renamed]
    exact ⟨delete.restrict_renamed injective, delete.compile_renamed⟩

/-- An alias in the place of the name of the table, and the other way round. -/
def swapReadings : Equiv.Perm String := Equiv.swap "r" "readings"

/-- The table of readings. -/
def Table.readings : Table := ⟨"readings", [Column.reading.withOwner "readings"]⟩

/-- A query and a deletion of readings under the name of the table as the alias. -/
theorem aliases_are_arbitrary_readings :
    (∃ one other,
      (Statement.select ((Select.ofTable (Table.readings.as "r")).run
        Select.callsOnReadings)).compile .sqlite = .ok one ∧
      (Statement.select ((Select.ofTable (Table.readings.as "readings")).run
        (Select.callsOnReadings.map (·.renamed swapReadings)))).compile .sqlite = .ok other ∧
      one.parameters = other.parameters) ∧
    ∃ one other,
      (Statement.delete ((Delete.ofTable (Table.readings.as "r")).run
        [.isNotNull (.column .reading)])).compile .sqlite = .ok one ∧
      (Statement.delete ((Delete.ofTable (Table.readings.as "readings")).run
        [(Expr.isNotNull (.column .reading)).renamed swapReadings])).compile .sqlite =
          .ok other ∧
      one.parameters = other.parameters ∧
      other.text = "DELETE FROM \"readings\" AS \"readings\" " ++
        "WHERE (\"readings\".\"level\" IS NOT NULL);" := by
  have swapped : swapReadings "r" = "readings" := Equiv.swap_apply_left _ _
  obtain ⟨queries, deletions⟩ :=
    aliases_are_arbitrary swapReadings.injective (Table.readings.as "r")
  have query := (queries Select.callsOnReadings).2 .sqlite
  have deletion := (deletions [.isNotNull (.column .reading)]).2 .sqlite
  rw [Table.renamed_as, swapped] at query deletion
  exact ⟨⟨_, _, rfl, rfl, query.2.2⟩, _, _, rfl, rfl, deletion.2.2, by decide +kernel⟩

end TypedSql
