/-!
# Three-valued logic

Conditions of SQL are true, false or unknown. A truth value is an optional Boolean, and
unknown is its absence. A conjunction is false as soon as one of its members is false, and a
disjunction true as soon as one is true, whatever the others are.
-/

namespace TypedSql

set_option autoImplicit false

/-- True, false, or unknown. -/
abbrev Truth := Option Bool

namespace Truth

/-- Both hold. -/
def and : Truth → Truth → Truth
  | some false, _ => some false
  | _, some false => some false
  | some true, other => other
  | none, _ => none

/-- At least one holds. -/
def or : Truth → Truth → Truth
  | some true, _ => some true
  | _, some true => some true
  | some false, other => other
  | none, _ => none

/-- The opposite. -/
def not : Truth → Truth := Option.map (!·)

/-- The opposite if asked for. -/
def negateIf (negated : Bool) (truth : Truth) : Truth := if negated then truth.not else truth

/-- All hold. -/
def all (members : List Truth) : Truth := members.foldr and (some true)

/-- At least one of them holds. -/
def any (members : List Truth) : Truth := members.foldr or (some false)

end Truth

end TypedSql
