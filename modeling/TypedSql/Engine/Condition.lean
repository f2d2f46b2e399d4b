import TypedSql.Engine.Table
import TypedSql.Kleene

/-!
# Conditions of the engine

A statement sees tables under aliases, and a row of what it sees is the cells of all these
tables one after another, each followed by the number of the row. A term becomes a condition
when its names are resolved to places in such a row and its placeholders to values. A
qualified name may also be the number of a row. A bare word is a column if there is one, and
otherwise the truth value that it spells. Names are resolved in the order of the text, and the
first that does not resolve decides. But one inside `LIKE` or a test for NULL ends only that
part, so that a name right after it can still be the one that decides.

Every condition has a value on every row. Comparisons, conjunctions and the like have truth
values, which are the integers 1 and 0, or NULL where the truth is unknown.
-/

namespace TypedSql.Engine

set_option autoImplicit false

/-! ## What a statement sees -/

/-- A table under its alias. -/
structure Visible where
  aliasName : String
  table : Table

/-- A place in a row, with the affinity of its column. -/
structure Place where
  index : Nat
  affinity : Affinity
deriving DecidableEq, Repr

namespace Visible

/-- How many values of a row are those of the table. -/
def width (visible : Visible) : Nat := visible.table.columns.length + 1

/-- The values of a row of the table as they are seen. -/
def cells (row : Row) : List Stored := row.cells ++ [.int row.number]

/-- The rows of the table as they are seen. -/
def rows (visible : Visible) : List (List Stored) := visible.table.rows.map cells

/-- The values that are seen where a join finds no row. -/
def absent (visible : Visible) : List Stored := List.replicate visible.width .null

/-- The place of a column, in a row in which the table begins at `start`. -/
def column? (start : Nat) (visible : Visible) (name : String) : Option Place := do
  let index ← visible.table.columnIndex? name
  let column ← visible.table.columns[index]?
  pure ⟨start + index, column.affinity⟩

/-- The place of the number of the row. -/
def number (start : Nat) (visible : Visible) : Place :=
  ⟨start + visible.table.columns.length, .integer⟩

end Visible

/-- The tables that a statement sees. -/
abbrev Scope := List Visible

namespace Scope

/-- The tables of a scope and where each begins in a row. -/
def starts (start : Nat) : Scope → List (Nat × Visible)
  | [] => []
  | visible :: rest => (start, visible) :: starts (start + visible.width) rest

/-- The only one of some places, or the error that there is none or more than one. -/
def only (name : String) : List Place → Except Refusal Place
  | [] => .error (.noSuchColumn name)
  | [place] => .ok place
  | _ :: _ :: _ => .error (.ambiguousColumn name)

/-- The place of a column of an alias. -/
def column (scope : Scope) (qualifier name : String) : Except Refusal Place :=
  let owners := (starts 0 scope).filter fun (_, visible) =>
    caseless visible.aliasName = caseless qualifier
  let places := owners.filterMap fun (start, visible) => visible.column? start name
  let numbers := owners.map fun (start, visible) => visible.number start
  only (qualifier ++ "." ++ name) (if places.isEmpty && isNumberName name then numbers else places)

/-- The places of the columns of a name, whatever their owners. -/
def bare (scope : Scope) (name : String) : List Place :=
  (starts 0 scope).filterMap fun (start, visible) => visible.column? start name

end Scope

/-! ## Conditions -/

/-- A term whose names and placeholders are resolved. -/
inductive Condition where
  | value (value : Stored)
  | cell (place : Place)
  | compare (comparison : Sql.Comparison) (left right : Condition)
  | is (negated : Bool) (left right : Condition)
  | holds (negated expected : Bool) (inner : Condition)
  | like (negated : Bool) (left pattern : Condition)
  | isIn (negated : Bool) (left : Condition) (members : List Condition)
  | and (left right : Condition)
  | or (left right : Condition)
  | not (inner : Condition)

namespace Condition

/-- The truth value that a word spells. -/
def keyword? (letters : String) : Option Bool :=
  [("TRUE", true), ("FALSE", false)].lookup letters.toUpper

/-- What a bare word stands for. -/
def ofName (scope : Scope) (letters : String) : Except Refusal Condition :=
  match scope.bare letters, keyword? letters with
  | [], some b => .ok (value (ofTruth (some b)))
  | places, _ => (Scope.only letters places).map cell

/-- The truth value that a term tests for, if it is a bare word that is no column. -/
def tested? (scope : Scope) : Sql.Term → Option Bool
  | .name letters => if (scope.bare letters).isEmpty then keyword? letters else none
  | _ => none

/-- A resolution, with the refusal so far of a part that it has left. -/
abbrev Resolving := StateT (Option Refusal) (Except Refusal)

/-- Ends a resolution that has been refused in a part that it has left. -/
def proceed : Resolving Unit := fun earlier =>
  match earlier with
  | none => .ok ((), none)
  | some refusal => .error refusal

/-- A part whose refusal ends the part but not yet the whole resolution. -/
def tolerate (part : Resolving Condition) : Resolving Condition := fun earlier =>
  match part earlier with
  | .ok result => .ok result
  | .error refusal => .ok (value .null, some refusal)

/-- A resolution as a whole. -/
def complete {α : Type} (resolution : Resolving α) : Except Refusal α :=
  match resolution none with
  | .ok (result, none) => .ok result
  | .ok (_, some refusal) => .error refusal
  | .error refusal => .error refusal

mutual

/-- Resolves a term, operands from the left except for `LIKE` and for truth tests. -/
def ofTerm (scope : Scope) (parameters : List Stored) : Sql.Term → Resolving Condition
  | .null => do
      proceed
      pure (value .null)
  | .constant truth => do
      proceed
      pure (value (ofTruth (some truth)))
  | .placeholder index => do
      proceed
      pure (value (parameters[index]?.getD .null))
  | .column qualifier field => (scope.column qualifier field).map cell
  | .name letters => ofName scope letters
  | .compare comparison left right => do
      proceed
      let left ← ofTerm scope parameters left
      let right ← ofTerm scope parameters right
      pure (compare comparison left right)
  | .is negated left .null => tolerate do
      let left ← ofTerm scope parameters left
      pure (is negated left (value .null))
  | .is negated left right => do
      let expected := tested? scope right
      let right ← ofTerm scope parameters right
      if expected.isNone then proceed
      let left ← ofTerm scope parameters left
      proceed
      match expected with
      | some expected => pure (holds negated expected left)
      | none => pure (is negated left right)
  | .like negated left pattern => do
      if negated then proceed
      tolerate do
        let pattern ← ofTerm scope parameters pattern
        let left ← ofTerm scope parameters left
        pure (like negated left pattern)
  | .isIn negated left members => do
      proceed
      let left ← ofTerm scope parameters left
      let members ← ofTerms scope parameters members
      pure (isIn negated left members)
  | .and left right => do
      proceed
      let left ← ofTerm scope parameters left
      let right ← ofTerm scope parameters right
      pure (and left right)
  | .or left right => do
      proceed
      let left ← ofTerm scope parameters left
      let right ← ofTerm scope parameters right
      pure (or left right)
  | .not inner => do
      proceed
      let inner ← ofTerm scope parameters inner
      pure (not inner)

/-- Resolves terms one after another. -/
def ofTerms (scope : Scope) (parameters : List Stored) :
    List Sql.Term → Resolving (List Condition)
  | [] => pure []
  | first :: rest => do
      let first ← ofTerm scope parameters first
      let rest ← ofTerms scope parameters rest
      pure (first :: rest)

end

/-! ## Reach -/

mutual

/-- Whether a condition looks at places from `width` on. -/
def reaches (width : Nat) : Condition → Bool
  | value _ => false
  | cell place => width ≤ place.index
  | compare _ left right => left.reaches width || right.reaches width
  | is _ left right => left.reaches width || right.reaches width
  | holds _ _ inner => inner.reaches width
  | like _ left pattern => left.reaches width || pattern.reaches width
  | isIn _ left members => left.reaches width || anyReaches width members
  | and left right => left.reaches width || right.reaches width
  | or left right => left.reaches width || right.reaches width
  | not inner => inner.reaches width

/-- Whether one of some conditions looks at places from `width` on. -/
def anyReaches (width : Nat) : List Condition → Bool
  | [] => false
  | first :: rest => first.reaches width || anyReaches width rest

end

/-! ## Values -/

/-- The affinity of a condition: that of its column, if it is one. -/
def affinity? : Condition → Option Affinity
  | cell place => some place.affinity
  | _ => none

/-- Whether an order of two values satisfies a comparison. -/
def accepts : Sql.Comparison → Ordering → Bool
  | .eq, order => order = .eq
  | .notEq, order => order ≠ .eq
  | .lt, order => order = .lt
  | .ltEq, order => order ≠ .gt
  | .gt, order => order = .gt
  | .gtEq, order => order ≠ .lt

/-- Whether two values are the same, where NULL is the same as NULL. -/
def isSame (affinity : Affinity) (left right : Stored) : Bool :=
  match compareUnder? affinity left right with
  | some order => order = .eq
  | none => left = .null && right = .null

/-- Whether a value equals one of some others. -/
def isMember (affinity : Affinity) (value : Stored) (members : List Stored) : Truth :=
  Truth.any (members.map fun member => (compareUnder? affinity value member).map (· == .eq))

/-- Whether a value matches a pattern. -/
def matchesPattern (value pattern : Stored) : Truth :=
  match textForm? value, textForm? pattern with
  | some text, some pattern => some (isLike pattern text)
  | _, _ => none

mutual

/-- The value of a condition on a row. -/
def eval (row : List Stored) : Condition → Stored
  | value stored => stored
  | cell place => row[place.index]?.getD .null
  | compare comparison left right =>
      let affinity := comparisonAffinity left.affinity? right.affinity?
      ofTruth ((compareUnder? affinity (left.eval row) (right.eval row)).map (accepts comparison))
  | is negated left right =>
      let affinity := comparisonAffinity left.affinity? right.affinity?
      ofTruth (Truth.negateIf negated (some (isSame affinity (left.eval row) (right.eval row))))
  | holds negated expected inner =>
      ofTruth (Truth.negateIf negated (some (truth? (inner.eval row) = some expected)))
  | like negated left pattern =>
      ofTruth (Truth.negateIf negated (matchesPattern (left.eval row) (pattern.eval row)))
  | isIn negated left members =>
      let affinity := comparisonAffinity left.affinity? none
      ofTruth (Truth.negateIf negated (isMember affinity (left.eval row) (evalAll row members)))
  | and left right => ofTruth (Truth.and (truth? (left.eval row)) (truth? (right.eval row)))
  | or left right => ofTruth (Truth.or (truth? (left.eval row)) (truth? (right.eval row)))
  | not inner => ofTruth (Truth.not (truth? (inner.eval row)))

/-- The values of conditions on a row. -/
def evalAll (row : List Stored) : List Condition → List Stored
  | [] => []
  | first :: rest => first.eval row :: evalAll row rest

end

/-- Whether a row satisfies a condition, which an unknown truth does not. -/
def isSatisfied (condition : Condition) (row : List Stored) : Bool :=
  truth? (condition.eval row) = some true

end Condition

end TypedSql.Engine
