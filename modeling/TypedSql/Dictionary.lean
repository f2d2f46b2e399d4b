/-!
# Dictionaries with text keys

A `Dictionary` maps keys to values and holds its entries in the order of the keys, each key
once. The order is that of the code points, which is also the order of the UTF-8 bytes. Since
the order and the uniqueness of the keys are part of the type, two dictionaries that answer
every look-up alike are equal.

Records are dictionaries of values, and the scope of a query is a dictionary of table names.
-/

namespace TypedSql

set_option autoImplicit false

/-- A finite map from texts to values. -/
structure Dictionary (α : Type) where
  entries : List (String × α)
  sorted : entries.Pairwise fun first second => first.1 < second.1

namespace Dictionary

variable {α β : Type}

instance [DecidableEq α] : DecidableEq (Dictionary α) := fun first second =>
  decidable_of_iff (first.entries = second.entries) (by
    cases first
    cases second
    simp)

/-- The dictionary without entries. -/
def empty : Dictionary α := ⟨[], .nil⟩

instance : Inhabited (Dictionary α) := ⟨empty⟩

/-- The keys in ascending order. -/
def keys (dictionary : Dictionary α) : List String := dictionary.entries.map (·.1)

/-- The value under a key. -/
def get? (dictionary : Dictionary α) (key : String) : Option α :=
  (dictionary.entries.find? (·.1 = key)).map (·.2)

/-- Whether a key has a value. -/
def contains (dictionary : Dictionary α) (key : String) : Bool :=
  dictionary.entries.any (·.1 = key)

/-! ## Insertion -/

/-- Puts an entry at its place among sorted entries, replacing one of the same key. -/
def insertSorted (key : String) (value : α) : List (String × α) → List (String × α)
  | [] => [(key, value)]
  | first :: rest =>
      if key < first.1 then (key, value) :: first :: rest
      else if key = first.1 then (key, value) :: rest
      else first :: insertSorted key value rest

theorem mem_insertSorted {key : String} {value : α} {entries : List (String × α)}
    {entry : String × α} (member : entry ∈ insertSorted key value entries) :
    entry = (key, value) ∨ entry ∈ entries := by
  induction entries with
  | nil => simpa [insertSorted] using member
  | cons first rest ih =>
    simp only [insertSorted] at member
    split at member
    · simpa using member
    · split at member
      · rcases List.mem_cons.mp member with same | inRest
        · exact .inl same
        · exact .inr (List.mem_cons_of_mem _ inRest)
      · rcases List.mem_cons.mp member with same | inserted
        · exact .inr (same ▸ List.mem_cons_self)
        · exact (ih inserted).imp id (List.mem_cons_of_mem _)

theorem insertSorted_sorted (key : String) (value : α) (entries : List (String × α))
    (sorted : entries.Pairwise fun first second => first.1 < second.1) :
    (insertSorted key value entries).Pairwise fun first second => first.1 < second.1 := by
  induction entries with
  | nil => exact List.pairwise_singleton _ _
  | cons first rest ih =>
    have ⟨before, restSorted⟩ := List.pairwise_cons.mp sorted
    simp only [insertSorted]
    split
    case isTrue less =>
      refine List.pairwise_cons.mpr ⟨fun entry member => ?_, sorted⟩
      rcases List.mem_cons.mp member with same | inRest
      · exact same ▸ less
      · exact String.lt_trans less (before entry inRest)
    case isFalse notLess =>
      split
      case isTrue same =>
        exact List.pairwise_cons.mpr ⟨fun entry member => same ▸ before entry member, restSorted⟩
      case isFalse different =>
        refine List.pairwise_cons.mpr ⟨fun entry member => ?_, ih restSorted⟩
        rcases mem_insertSorted member with same | inRest
        · subst same
          exact String.not_le.mp fun le =>
            different (String.le_antisymm le (String.not_lt.mp notLess))
        · exact before entry inRest

/-- The dictionary with one more entry, which replaces an earlier one of the same key. -/
def insert (dictionary : Dictionary α) (key : String) (value : α) : Dictionary α :=
  ⟨insertSorted key value dictionary.entries,
    insertSorted_sorted key value dictionary.entries dictionary.sorted⟩

/-- The dictionary without a key. -/
def erase (dictionary : Dictionary α) (key : String) : Dictionary α :=
  ⟨dictionary.entries.filter (·.1 ≠ key), dictionary.sorted.filter _⟩

/-- The dictionary of a list of entries, of which later ones replace earlier ones. -/
def ofList (entries : List (String × α)) : Dictionary α :=
  entries.foldl (fun dictionary entry => dictionary.insert entry.1 entry.2) empty

end Dictionary

end TypedSql
