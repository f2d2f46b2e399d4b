import TypedSql.Proofs.Faults

/-!
# Expressions with other columns and other literals

`Expr.map` puts other columns and other literals into an expression and leaves its shape as it
is. The operators keep the operands that they take or do not take, so the faults stay
(`Expr.faults_map`), and the columns are replaced one by one (`Expr.columns_map`). What is
written changes in the columns and the literals only: a view of fragments that does not tell
these apart sees no difference (`Expr.written_map`).
-/

set_option autoImplicit false

namespace TypedSql

open Fragment

theorem Fragment.map_separated {β : Type} (view : Fragment → β) (separator : String)
    (parts : List (List Fragment)) :
    (separated separator parts).map view =
      List.intercalate [view (word separator)] (parts.map (·.map view)) := by
  induction parts with
  | nil => rfl
  | cons first rest ih =>
      rw [separated] at ih ⊢
      cases rest with
      | nil => simp
      | cons second others => simpa [List.intercalate_cons_cons] using ih

namespace Expr

mutual

/-- The same expression with other columns and other literals. -/
def map (onColumn : Column → Column) (onValue : Value → Value) : Expr → Expr
  | column reference => column (onColumn reference)
  | literal value => literal (onValue value)
  | binary left operator right =>
      binary (left.map onColumn onValue) operator (right.map onColumn onValue)
  | ofList left operator values =>
      ofList (left.map onColumn onValue) operator (values.map onValue)
  | ofTruth left operator keyword => ofTruth (left.map onColumn onValue) operator keyword
  | junction kind members => junction kind (mapAll onColumn onValue members)
  | not inner => not (inner.map onColumn onValue)

/-- The same expressions with other columns and other literals. -/
def mapAll (onColumn : Column → Column) (onValue : Value → Value) : List Expr → List Expr
  | [] => []
  | first :: rest => first.map onColumn onValue :: mapAll onColumn onValue rest

end

variable {onColumn : Column → Column} {onValue : Value → Value}

theorem mapAll_eq_map (members : List Expr) :
    mapAll onColumn onValue members = members.map (·.map onColumn onValue) := by
  induction members with
  | nil => rfl
  | cons first rest ih => rw [mapAll, ih, List.map_cons]

mutual

theorem map_id : ∀ e : Expr, e.map id id = e
  | column _ => rfl
  | literal _ => rfl
  | binary left _ right => by rw [map, map_id left, map_id right]
  | ofList left _ _ => by rw [map, map_id left, List.map_id]
  | ofTruth left _ _ => by rw [map, map_id left]
  | junction _ members => by rw [map, mapAll_id members]
  | not inner => by rw [map, map_id inner]

theorem mapAll_id : ∀ members : List Expr, mapAll id id members = members
  | [] => rfl
  | first :: rest => by rw [mapAll, map_id first, mapAll_id rest]

end

/-! ## Faults -/

mutual

theorem nodes_map : ∀ e : Expr,
    (e.map onColumn onValue).nodes = e.nodes.map (·.map onColumn onValue)
  | column _ => rfl
  | literal _ => rfl
  | binary left _ right => by simp [map, nodes, nodes_map left, nodes_map right]
  | ofList left _ _ => by simp [map, nodes, nodes_map left]
  | ofTruth left _ _ => by simp [map, nodes, nodes_map left]
  | junction _ members => by simp [map, nodes, nodesOfAll_mapAll members]
  | not inner => by simp [map, nodes, nodes_map inner]

theorem nodesOfAll_mapAll : ∀ members : List Expr,
    nodesOfAll (mapAll onColumn onValue members) =
      (nodesOfAll members).map (·.map onColumn onValue)
  | [] => rfl
  | first :: rest => by simp [mapAll, nodesOfAll, nodes_map first, nodesOfAll_mapAll rest]

end

theorem isWellPaired_map (node : Expr) :
    (node.map onColumn onValue).isWellPaired = node.isWellPaired := by
  cases node with
  | binary _ _ right => cases right <;> rfl
  | _ => rfl

theorem mispairing?_map (node : Expr) :
    (node.map onColumn onValue).mispairing? = node.mispairing? := by
  cases node <;> rfl

/-- **An expression with other columns and literals has the same faults.** -/
theorem faults_map (e : Expr) : (e.map onColumn onValue).faults = e.faults := by
  have paired : (!·.isWellPaired) ∘ map onColumn onValue = (!·.isWellPaired) :=
    funext fun node => congrArg (!·) node.isWellPaired_map
  have named : mispairing? ∘ map onColumn onValue = mispairing? :=
    funext fun node => node.mispairing?_map
  rw [faults, faults, nodes_map, mispairings, mispairings, List.filter_map, List.filterMap_map,
    paired, named]

/-! ## Columns -/

mutual

theorem columns_map : ∀ e : Expr, (e.map onColumn onValue).columns = e.columns.map onColumn
  | column _ => rfl
  | literal _ => rfl
  | binary left _ right => by simp [map, columns, columns_map left, columns_map right]
  | ofList left _ _ => columns_map left
  | ofTruth left _ _ => columns_map left
  | junction _ members => columnsOfAll_mapAll members
  | not inner => columns_map inner

theorem columnsOfAll_mapAll : ∀ members : List Expr,
    columnsOfAll (mapAll onColumn onValue members) = (columnsOfAll members).map onColumn
  | [] => rfl
  | first :: rest => by simp [mapAll, columnsOfAll, columns_map first, columnsOfAll_mapAll rest]

end

/-! ## Fragments -/

variable {β : Type} {view : Fragment → β}

mutual

/-- **A view that sees no difference in columns and literals sees none in expressions.** -/
theorem written_map
    (columns : ∀ reference : Column,
      (onColumn reference).fragments.map view = reference.fragments.map view)
    (values : ∀ value : Value, view (onValue value).written = view value.written) :
    ∀ e : Expr, (e.map onColumn onValue).written.map view = e.written.map view
  | column reference => columns reference
  | literal value => by simp [map, written, values]
  | binary left operator right => by
      rw [map, written, written, writtenBinary, writtenBinary]
      split <;> simp [written_map columns values left, written_map columns values right]
  | ofList left operator items => by
      simp [map, written, written_map columns values left, map_separated, values,
        Function.comp_def]
  | ofTruth left operator keyword => by
      simp [map, written, written_map columns values left]
  | junction kind [] => rfl
  | junction kind (first :: rest) => by
      have members := writtenOfAll_mapAll columns values (first :: rest)
      simp only [mapAll] at members
      simp [map, mapAll, written, map_separated, members]
  | not inner => by simp [map, written, written_map columns values inner]

theorem writtenOfAll_mapAll
    (columns : ∀ reference : Column,
      (onColumn reference).fragments.map view = reference.fragments.map view)
    (values : ∀ value : Value, view (onValue value).written = view value.written) :
    ∀ members : List Expr,
      (writtenOfAll (mapAll onColumn onValue members)).map (·.map view) =
        (writtenOfAll members).map (·.map view)
  | [] => rfl
  | first :: rest => by
      simp [mapAll, writtenOfAll, written_map columns values first,
        writtenOfAll_mapAll columns values rest]

end

end Expr

end TypedSql
