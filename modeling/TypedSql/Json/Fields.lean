import TypedSql.Json.Basic

/-!
# Fields of JSON documents

A document with a fixed list of fields is an object, or an array that gives the fields in
their order and may stop early. Members of an object that are not in the list are skipped,
whatever they hold and however often they occur, but a field of the list occurs at most once
and every key must be a text.
-/

namespace TypedSql.Json.Tree

set_option autoImplicit false

/-- The fields that a document gives, among those of a list. -/
def fields? (names : List String) : Tree → Option (List (String × Tree))
  | array items => if items.length ≤ names.length then some (names.zip items) else none
  | object members => do
      let named ← members.mapM fun (key, tree) => key.map (·, tree)
      let known := named.filter (·.1 ∈ names)
      if (known.map (·.1)).Nodup then some known else none
  | _ => none

/-- Reads a field that has to be given. -/
def required? {α : Type} (given : List (String × Tree)) (name : String)
    (read? : Tree → Option α) : Option α :=
  (given.lookup name).bind read?

/-- Reads a field that has a value of its own when it is not given. -/
def optional? {α : Type} (given : List (String × Tree)) (name : String) (absent : α)
    (read? : Tree → Option α) : Option α :=
  match given.lookup name with
  | none => some absent
  | some tree => read? tree

/-- Reads a truth value. -/
def bool? : Tree → Option Bool
  | bool b => some b
  | _ => none

/-- Reads a text. -/
def string? : Tree → Option String
  | string text => text
  | _ => none

/-- Reads a natural number below `2 ^ 32` that is written as an integer. -/
def natural32? : Tree → Option Nat
  | number (some (.integer n)) => if 0 ≤ n ∧ n < UInt32.size then some n.toNat else none
  | _ => none

/-- Reads a list, item by item. -/
def list? {α : Type} (read? : Tree → Option α) : Tree → Option (List α)
  | array items => items.mapM read?
  | _ => none

/-- Reads a value that may be null. -/
def nullable? {α : Type} (read? : Tree → Option α) : Tree → Option (Option α)
  | null => some none
  | tree => (read? tree).map some

end TypedSql.Json.Tree
