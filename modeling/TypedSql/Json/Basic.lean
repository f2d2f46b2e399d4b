import TypedSql.Binary64.Rounding
import TypedSql.Dictionary

/-!
# JSON values

`Json` is a JSON value. The members of an object are listed with their keys, and a value that
was read from a text lists them in ascending order, each key once.

`Json.Tree` is a document as it is written: the members of an object stand in the order of the
text and may repeat a key. A string whose escapes name no text, because a surrogate stands
alone, and a number that no double can hold are grammatical and have no value. A tree keeps
them as such, so that they do no harm where nobody looks at them. `Tree.value?` is the value
of a tree, if all its parts have one, and `Json.tree` writes a value as a tree.
-/

namespace TypedSql

set_option autoImplicit false

namespace Json

/-- A number of a JSON document. Integers of 64 bits are exact, and all other numbers are
doubles. -/
inductive Number where
  | integer (value : Int)
  | float (value : Binary64)
deriving DecidableEq, Repr

/-- A JSON document as it is written. -/
inductive Tree where
  | null
  | bool (value : Bool)
  | number (value : Option Number)
  | string (text : Option String)
  | array (items : List Tree)
  | object (members : List (Option String × Tree))

end Json

/-- A JSON value. -/
inductive Json where
  | null
  | bool (value : Bool)
  | number (value : Json.Number)
  | string (text : String)
  | array (items : List Json)
  | object (members : List (String × Json))

namespace Json

/-! ## Trees and values -/

namespace Tree

mutual

/-- How deeply arrays and objects are nested. -/
def depth : Tree → Nat
  | array items => itemsDepth items + 1
  | object members => membersDepth members + 1
  | _ => 0

/-- The greatest depth among items. -/
def itemsDepth : List Tree → Nat
  | [] => 0
  | first :: rest => max first.depth (itemsDepth rest)

/-- The greatest depth among the values of members. -/
def membersDepth : List (Option String × Tree) → Nat
  | [] => 0
  | (_, first) :: rest => max first.depth (membersDepth rest)

end

mutual

/-- The value of a tree. -/
def value? : Tree → Option Json
  | null => some .null
  | bool b => some (.bool b)
  | number n => n.map .number
  | string s => s.map .string
  | array items => (itemsValue? items).map .array
  | object members => (membersValue? members []).map .object

/-- The values of items. -/
def itemsValue? : List Tree → Option (List Json)
  | [] => some []
  | first :: rest => do
      let item ← first.value?
      let items ← itemsValue? rest
      pure (item :: items)

/-- The members of an object together with those read before them, of which a later one
replaces an earlier one of the same key. -/
def membersValue? : List (Option String × Tree) → List (String × Json) →
    Option (List (String × Json))
  | [], read => some read
  | (key, first) :: rest, read => do
      let name ← key
      let item ← first.value?
      membersValue? rest (Dictionary.insertSorted name item read)

end

end Tree

mutual

/-- A value as a tree. -/
def tree : Json → Tree
  | null => .null
  | bool b => .bool b
  | number n => .number (some n)
  | string s => .string (some s)
  | array items => .array (itemTrees items)
  | object members => .object (memberTrees members)

/-- Items as trees. -/
def itemTrees : List Json → List Tree
  | [] => []
  | first :: rest => first.tree :: itemTrees rest

/-- Members as trees. -/
def memberTrees : List (String × Json) → List (Option String × Tree)
  | [] => []
  | (key, first) :: rest => (some key, first.tree) :: memberTrees rest

end

end Json

end TypedSql
