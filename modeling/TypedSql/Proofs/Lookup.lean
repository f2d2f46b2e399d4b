import TypedSql.Dictionary

/-!
# Look-up in dictionaries

What a dictionary answers after one more entry: the new value under the new key, and under every
other key what it answered before.
-/

set_option autoImplicit false

namespace TypedSql.Dictionary

variable {α : Type}

theorem find?_insertSorted (key other : String) (value : α) (entries : List (String × α)) :
    (insertSorted key value entries).find? (·.1 = other) =
      if other = key then some (key, value) else entries.find? (·.1 = other) := by
  induction entries with
  | nil =>
      by_cases same : other = key
      · simp [insertSorted, same]
      · simp [insertSorted, same, Ne.symm same]
  | cons first rest ih =>
      by_cases same : other = key
      · subst same
        simp only [insertSorted]
        split
        · simp
        · split
          · simp
          · rename_i different
            simpa [Ne.symm different] using ih
      · simp only [insertSorted]
        split
        · simp [Ne.symm same]
        · split
          · rename_i replaced
            simp [Ne.symm same, ← replaced]
          · simp only [List.find?_cons, ih, same, if_false]

/-- The value under a key after an insertion. -/
theorem get?_insert (dictionary : Dictionary α) (key other : String) (value : α) :
    (dictionary.insert key value).get? other =
      if other = key then some value else dictionary.get? other := by
  simp only [get?, insert, find?_insertSorted]
  split <;> rfl

/-- A dictionary contains the keys that have a value. -/
theorem contains_eq_isSome (dictionary : Dictionary α) (key : String) :
    dictionary.contains key = (dictionary.get? key).isSome := by
  rw [contains, get?, Option.isSome_map, List.isSome_find?]

/-- A dictionary contains its keys. -/
theorem contains_iff_mem_keys {dictionary : Dictionary α} {key : String} :
    dictionary.contains key = true ↔ key ∈ dictionary.keys := by
  simp [contains, keys]

theorem contains_insert {dictionary : Dictionary α} {key other : String} {value : α} :
    (dictionary.insert key value).contains other = true ↔
      other = key ∨ dictionary.contains other = true := by
  rw [contains_eq_isSome, contains_eq_isSome, get?_insert]
  split <;> simp [*]

/-- An entry that is there already has its place among sorted entries. -/
theorem insertSorted_of_mem {key : String} {value : α} {entries : List (String × α)}
    (sorted : entries.Pairwise fun first second => first.1 < second.1)
    (there : (key, value) ∈ entries) : insertSorted key value entries = entries := by
  induction entries with
  | nil => cases there
  | cons first rest ih =>
      obtain ⟨before, sortedRest⟩ := List.pairwise_cons.mp sorted
      rw [insertSorted]
      rcases List.mem_cons.mp there with rfl | inRest
      · rw [if_neg (String.lt_irrefl key), if_pos rfl]
      · have less : first.1 < key := before _ inRest
        have different : key ≠ first.1 := by
          intro same
          exact String.lt_irrefl key (same ▸ less)
        rw [if_neg (String.lt_asymm less), if_neg different, ih sortedRest inRest]

/-- Inserting what is there already changes nothing. -/
theorem insert_of_get? {dictionary : Dictionary α} {key : String} {value : α}
    (there : dictionary.get? key = some value) : dictionary.insert key value = dictionary := by
  obtain ⟨entry, found, rfl⟩ := Option.map_eq_some_iff.mp there
  obtain rfl : entry.1 = key := by simpa using List.find?_some found
  have same := insertSorted_of_mem dictionary.sorted (List.mem_of_find?_eq_some found)
  rw [insert]
  simp only [same]

theorem get?_empty (key : String) : (empty : Dictionary α).get? key = none := rfl

end TypedSql.Dictionary
