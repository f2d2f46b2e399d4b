import Mathlib.Data.List.Induction
import TypedSql.Kleene
import TypedSql.Proofs.Clauses

/-!
# Conditions added one after another

Each call that adds a condition to a query or to a deletion is answered or refused, and the
refused ones leave nothing behind. `Select.granted` and `Delete.granted` are the conditions of
the calls that are answered. A statement without a condition then has none if no condition was
granted, the one that was granted if there is one, and from two on the conjunction of all
(`Expr.accumulated`). Only the first condition is opened: if it is itself a conjunction, its
members stand in the new one, while a later conjunction stays one member.

What this means is a matter of three-valued logic (`Expr.truth`). Conjunctions, disjunctions and
negations are read as such, and everything else has a truth value of its own, which may be any.
Opening the first conjunction does not change the meaning since conjunction is associative, so
the condition of a statement is true, false or unknown exactly as the conjunction of all
conditions that were granted. The main statement is `conditions_accumulate`.
-/

set_option autoImplicit false

namespace TypedSql

/-! ## Conjunctions of truth values -/

namespace Truth

theorem and_assoc (first second third : Truth) :
    (first.and second).and third = first.and (second.and third) := by
  rcases first with _ | _ | _ <;> rcases second with _ | _ | _ <;> rcases third with _ | _ | _ <;>
    rfl

theorem and_true (truth : Truth) : truth.and (some true) = truth := by
  rcases truth with _ | _ | _ <;> rfl

theorem true_and (truth : Truth) : Truth.and (some true) truth = truth := by
  rcases truth with _ | _ | _ <;> rfl

theorem all_append (front back : List Truth) : all (front ++ back) = (all front).and (all back) := by
  induction front with
  | nil => exact (true_and _).symm
  | cons first rest ih => exact (congrArg first.and ih).trans (and_assoc ..).symm

theorem all_singleton (truth : Truth) : all [truth] = truth := and_true truth

end Truth

namespace Expr

/-! ## What conditions mean -/

mutual

/-- The truth value of a condition, where the conditions that are not joined or negated have the
truth values that are assigned to them. -/
def truth (assigned : Expr → Truth) : Expr → Truth
  | junction .and members => Truth.all (truths assigned members)
  | junction .or members => Truth.any (truths assigned members)
  | not inner => (truth assigned inner).not
  | single => assigned single

/-- The truth values of conditions. -/
def truths (assigned : Expr → Truth) : List Expr → List Truth
  | [] => []
  | first :: rest => truth assigned first :: truths assigned rest

end

/-- The truth value of the condition of a statement, which is met everywhere if there is none. -/
def clauseTruth (assigned : Expr → Truth) : Option Expr → Truth
  | none => some true
  | some condition => condition.truth assigned

theorem truths_eq_map (assigned : Expr → Truth) (members : List Expr) :
    truths assigned members = members.map (truth assigned) := by
  induction members with
  | nil => rfl
  | cons first rest ih => rw [truths, ih, List.map_cons]

theorem truth_all (assigned : Expr → Truth) (members : List Expr) :
    (all members).truth assigned = Truth.all (members.map (truth assigned)) := by
  rw [truth, truths_eq_map]

/-! ## The form of accumulated conditions -/

/-- The members of a conjunction, or a condition itself. -/
def conjuncts : Expr → List Expr
  | junction .and members => members
  | other => [other]

/-- What conditions become that are added one after another. -/
def accumulated : List Expr → Option Expr
  | [] => none
  | [only] => some only
  | first :: second :: rest => some (.all (first.conjuncts ++ second :: rest))

/-- A further condition extends the conjunction of the conditions so far. -/
theorem conjoin_some (existing condition : Expr) :
    conjoin (some existing) condition = .all (existing.conjuncts ++ [condition]) := by
  cases existing with
  | junction kind members => cases kind <;> rfl
  | _ => rfl

theorem accumulated_append_singleton (conditions : List Expr) (condition : Expr) :
    accumulated (conditions ++ [condition]) =
      some (conjoin (accumulated conditions) condition) := by
  rcases conditions with _ | ⟨first, _ | ⟨second, rest⟩⟩
  · rfl
  · exact congrArg some (conjoin_some first condition).symm
  · rw [accumulated, conjoin_some, conjuncts, List.append_assoc]
    rfl

/-- The condition of a statement after one more condition has been added. -/
def extended (existing : Option Expr) (condition : Expr) : Option Expr :=
  some (conjoin existing condition)

/-- **Conditions that are added one after another accumulate.** -/
theorem foldl_extended_eq_accumulated (conditions : List Expr) :
    conditions.foldl extended none = accumulated conditions := by
  induction conditions using List.reverseRecOn with
  | nil => rfl
  | append_singleton earlier condition ih =>
      rw [List.foldl_append, ih, accumulated_append_singleton]
      rfl

theorem all_conjuncts (assigned : Expr → Truth) (condition : Expr) :
    Truth.all (condition.conjuncts.map (truth assigned)) = condition.truth assigned := by
  have single (other : Expr) : Truth.all ([other].map (truth assigned)) = other.truth assigned :=
    Truth.all_singleton _
  cases condition with
  | junction kind members =>
      cases kind with
      | and => exact (truth_all assigned members).symm
      | or => exact single _
  | _ => exact single _

/-- **Accumulated conditions mean their conjunction.** -/
theorem clauseTruth_accumulated (assigned : Expr → Truth) (conditions : List Expr) :
    clauseTruth assigned (accumulated conditions) =
      Truth.all (conditions.map (truth assigned)) := by
  rcases conditions with _ | ⟨first, _ | ⟨second, rest⟩⟩
  · rfl
  · exact (Truth.all_singleton _).symm
  · rw [accumulated, clauseTruth, truth_all, List.map_append, Truth.all_append, all_conjuncts]
    rfl

end Expr

/-! ## The conditions that are granted -/

namespace Select

/-- The condition that a call adds. -/
def Step.condition? : Step → Option Expr
  | restrict condition => some condition
  | _ => none

/-- The condition that a call adds to a select, unless the call is refused. -/
def Step.granted? (select : Select) (step : Step) : Option Expr :=
  match step.apply select with
  | .ok _ => step.condition?
  | .error _ => none

/-- The conditions of the calls that are answered, in order. -/
def granted (select : Select) : List Step → List Expr
  | [] => []
  | step :: rest => (step.granted? select).toList ++ granted (step.next select) rest

/-- An answered call adds its condition, and every other call leaves the condition as it is. -/
theorem Step.condition_next (select : Select) (step : Step) :
    (step.next select).condition =
      (step.granted? select).toList.foldl Expr.extended select.condition := by
  rw [next, granted?]
  cases answered : step.apply select with
  | error => rfl
  | ok next =>
      obtain ⟨-, rfl⟩ := Step.apply_eq_ok_iff.mp answered
      cases step <;> rfl

theorem condition_run (select : Select) (steps : List Step) :
    (select.run steps).condition =
      (select.granted steps).foldl Expr.extended select.condition := by
  induction steps generalizing select with
  | nil => rfl
  | cons step rest ih =>
      rw [granted, List.foldl_append, ← Step.condition_next, ← ih]
      rfl

/-- When every call is answered, every condition is granted. -/
theorem granted_of_build {steps : List Step} {select final : Select}
    (answered : select.build steps = .ok final) :
    select.run steps = final ∧ select.granted steps = steps.filterMap Step.condition? := by
  induction steps generalizing select with
  | nil => exact ⟨Except.ok.inj answered, rfl⟩
  | cons step rest ih =>
      obtain ⟨next, stepped, later⟩ := build_cons_eq_ok_iff.mp answered
      obtain ⟨ran, every⟩ := ih later
      have isNext : step.next select = next := by rw [Step.next, stepped]
      rw [← isNext] at ran every
      refine ⟨ran, ?_⟩
      rw [granted, every, Step.granted?, stepped, List.filterMap_cons]
      cases step.condition? <;> rfl

end Select

namespace Delete

/-- The conditions that a deletion accepts, in order. -/
def granted (delete : Delete) (conditions : List Expr) : List Expr :=
  conditions.filter fun condition => (delete.restrict condition).isOk

/-- An accepted condition is added, and the deletion keeps its alias. -/
theorem of_restrict_eq_ok {delete next : Delete} {condition : Expr}
    (answered : delete.restrict condition = .ok next) :
    next.aliasName = delete.aliasName ∧
      next.condition = Expr.extended delete.condition condition := by
  rw [restrict] at answered
  split at answered
  · cases answered
  · cases answered
    exact ⟨rfl, rfl⟩

/-- Which conditions a deletion accepts depends on its alias only. -/
theorem granted_congr {one other : Delete} (same : one.aliasName = other.aliasName)
    (conditions : List Expr) : one.granted conditions = other.granted conditions := by
  refine List.filter_congr ?_
  intro condition _
  rw [restrict, restrict, same]
  split <;> rfl

theorem condition_run (delete : Delete) (conditions : List Expr) :
    (delete.run conditions).condition =
      (delete.granted conditions).foldl Expr.extended delete.condition := by
  induction conditions generalizing delete with
  | nil => rfl
  | cons condition rest ih =>
      rw [run, List.foldl_cons, granted, List.filter_cons]
      cases answered : delete.restrict condition with
      | error => exact ih delete
      | ok next =>
          obtain ⟨sameAlias, extended⟩ := of_restrict_eq_ok answered
          refine (ih next).trans ?_
          rw [granted_congr sameAlias, extended]
          rfl

end Delete

/-! ## The main statement -/

/-- **The condition of a statement is the conjunction of the conditions that were added to it**, in
its form and in its meaning, whatever other calls come between. -/
theorem conditions_accumulate :
    (∀ (select : Select) (steps : List Select.Step), select.condition = none →
      (select.run steps).condition = Expr.accumulated (select.granted steps) ∧
      (∀ assigned, Expr.clauseTruth assigned (select.run steps).condition =
        Truth.all ((select.granted steps).map (Expr.truth assigned))) ∧
      ∀ final, select.build steps = .ok final → select.run steps = final ∧
        select.granted steps = steps.filterMap Select.Step.condition?) ∧
    ∀ (delete : Delete) (conditions : List Expr), delete.condition = none →
      (delete.run conditions).condition = Expr.accumulated (delete.granted conditions) ∧
      ∀ assigned, Expr.clauseTruth assigned (delete.run conditions).condition =
        Truth.all ((delete.granted conditions).map (Expr.truth assigned)) := by
  constructor
  · intro select steps start
    have form : (select.run steps).condition = Expr.accumulated (select.granted steps) := by
      rw [Select.condition_run, start, Expr.foldl_extended_eq_accumulated]
    refine ⟨form, ?_, ?_⟩
    · intro assigned
      rw [form, Expr.clauseTruth_accumulated]
    · intro final answered
      exact Select.granted_of_build answered
  · intro delete conditions start
    have form : (delete.run conditions).condition =
        Expr.accumulated (delete.granted conditions) := by
      rw [Delete.condition_run, start, Expr.foldl_extended_eq_accumulated]
    refine ⟨form, ?_⟩
    intro assigned
    rw [form, Expr.clauseTruth_accumulated]

/-- Whether there is no reading. -/
def Expr.noReading : Expr := .isNull (.column .reading)

/-- Three conditions for readings under the alias `r`, of which the second uses another alias. -/
def readingConditions : List Expr :=
  [.all [.noReading, .isNotNull (.column .reading)],
    .isNull (.column (Column.reading.withOwner "s")), .any [.noReading, .not .noReading]]

/-- The first and the third condition are granted: the first is opened, the third is not, and
their conjunction is what a query and a deletion are restricted to. -/
theorem conditions_accumulate_readings :
    let kept := some (Expr.all [.noReading, .isNotNull (.column .reading),
      .any [.noReading, .not .noReading]])
    (Select.readings.run (readingConditions.map .restrict)).condition = kept ∧
      ((Delete.ofTable ⟨"readings", "r", [.reading]⟩).run readingConditions).condition = kept ∧
      ∀ assigned, Expr.clauseTruth assigned kept =
        Truth.all [Expr.truth assigned (.all [.noReading, .isNotNull (.column .reading)]),
          Expr.truth assigned (.any [.noReading, .not .noReading])] := by
  obtain ⟨form, meaning, -⟩ :=
    conditions_accumulate.1 Select.readings (readingConditions.map .restrict) rfl
  obtain ⟨formOfDelete, -⟩ :=
    conditions_accumulate.2 (Delete.ofTable ⟨"readings", "r", [.reading]⟩) readingConditions rfl
  refine ⟨form, formOfDelete, ?_⟩
  intro assigned
  rw [form] at meaning
  exact meaning assigned

end TypedSql
