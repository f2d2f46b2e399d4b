import TypedSql.Dictionary
import TypedSql.Json.Basic

/-!
# The values of JSON documents

`Json.Readable` describes the values that documents have: the keys of every object ascend, and
arrays and objects are nested at most so deep. Every value of a document is readable, because
members are put in order when they are read, and a readable value is the value of the tree that it
is written as (`Json.readable_iff`).

So a value that has been read once is read again from its own tree, without change. A document
itself may say more than its value, since it orders and repeats keys as it likes.
-/

set_option autoImplicit false

namespace TypedSql

/-- The keys of entries in ascending order, each key once. -/
abbrev Ascending {α : Type} (entries : List (String × α)) : Prop :=
  entries.Pairwise fun first second => first.1 < second.1

/-- An entry whose key comes after all others goes to the end. -/
theorem Dictionary.insertSorted_last {α : Type} {key : String} {value : α}
    {entries : List (String × α)} (before : ∀ entry ∈ entries, entry.1 < key) :
    insertSorted key value entries = entries ++ [(key, value)] := by
  induction entries with
  | nil => rfl
  | cons first rest ih =>
      obtain ⟨less, others⟩ := List.forall_mem_cons.mp before
      have different : key ≠ first.1 := by
        intro same
        exact String.lt_irrefl _ (same ▸ less)
      rw [insertSorted, if_neg (String.lt_asymm less), if_neg different, ih others,
        List.cons_append]

namespace Json

/-- A value that a document can have, with arrays and objects nested at most so deep. -/
inductive Readable : Nat → Json → Prop where
  | null (depth : Nat) : Readable depth .null
  | bool (depth : Nat) (b : Bool) : Readable depth (.bool b)
  | number (depth : Nat) (n : Number) : Readable depth (.number n)
  | string (depth : Nat) (s : String) : Readable depth (.string s)
  | array {depth : Nat} {items : List Json} (each : ∀ item ∈ items, Readable depth item) :
      Readable (depth + 1) (.array items)
  | object {depth : Nat} {members : List (String × Json)} (ascending : Ascending members)
      (each : ∀ member ∈ members, Readable depth member.2) :
      Readable (depth + 1) (.object members)

/-! ## Reading -/

namespace Tree

mutual

/-- The value of a tree is readable. -/
theorem readable_of_value? : ∀ (tree : Tree) {depth : Nat} {json : Json}, tree.depth ≤ depth →
    tree.value? = some json → json.Readable depth
  | null, depth, json, _, valued => by
      cases valued
      exact .null depth
  | bool b, depth, json, _, valued => by
      cases valued
      exact .bool depth b
  | number n, depth, json, _, valued => by
      obtain ⟨value, -, rfl⟩ := Option.map_eq_some_iff.mp valued
      exact .number depth value
  | string s, depth, json, _, valued => by
      obtain ⟨text, -, rfl⟩ := Option.map_eq_some_iff.mp valued
      exact .string depth text
  | array items, depth, json, shallow, valued => by
      obtain ⟨values, read, rfl⟩ := Option.map_eq_some_iff.mp valued
      obtain ⟨depth, rfl⟩ := Nat.exists_eq_add_of_le' (Nat.le_of_add_left_le shallow)
      exact .array (readable_of_itemsValue? items (Nat.le_of_succ_le_succ shallow) read)
  | object members, depth, json, shallow, valued => by
      obtain ⟨values, read, rfl⟩ := Option.map_eq_some_iff.mp valued
      obtain ⟨depth, rfl⟩ := Nat.exists_eq_add_of_le' (Nat.le_of_add_left_le shallow)
      obtain ⟨ascending, each⟩ := readable_of_membersValue? members
        (Nat.le_of_succ_le_succ shallow) .nil (List.forall_mem_nil _) read
      exact .object ascending each

/-- The values of items are readable. -/
theorem readable_of_itemsValue? : ∀ (items : List Tree) {depth : Nat} {values : List Json},
    itemsDepth items ≤ depth → itemsValue? items = some values →
      ∀ value ∈ values, value.Readable depth
  | [], depth, values, _, read => by
      cases read
      exact List.forall_mem_nil _
  | first :: rest, depth, values, shallow, read => by
      simp only [itemsValue?, Option.bind_eq_bind, Option.bind_eq_some_iff, Option.pure_def,
        Option.some.injEq] at read
      obtain ⟨item, firstRead, others, restRead, rfl⟩ := read
      obtain ⟨firstShallow, restShallow⟩ := Nat.max_le.mp shallow
      exact List.forall_mem_cons.mpr ⟨readable_of_value? first firstShallow firstRead,
        readable_of_itemsValue? rest restShallow restRead⟩

/-- The values of members are readable, and so are those of members read before them. -/
theorem readable_of_membersValue? : ∀ (members : List (Option String × Tree)) {depth : Nat}
    {before values : List (String × Json)}, membersDepth members ≤ depth → Ascending before →
      (∀ member ∈ before, member.2.Readable depth) → membersValue? members before = some values →
        Ascending values ∧ ∀ member ∈ values, member.2.Readable depth
  | [], depth, before, values, _, ascending, each, read => by
      cases read
      exact ⟨ascending, each⟩
  | (key, first) :: rest, depth, before, values, shallow, ascending, each, read => by
      simp only [membersValue?, Option.bind_eq_bind, Option.bind_eq_some_iff] at read
      obtain ⟨name, -, item, firstRead, restRead⟩ := read
      obtain ⟨firstShallow, restShallow⟩ := Nat.max_le.mp shallow
      -- What has been read is in order at every step, whatever the order of the document is.
      refine readable_of_membersValue? rest restShallow
        (Dictionary.insertSorted_sorted name item before ascending) ?_ restRead
      intro member inserted
      rcases Dictionary.mem_insertSorted inserted with rfl | inBefore
      · exact readable_of_value? first firstShallow firstRead
      · exact each member inBefore

end

end Tree

/-! ## Writing -/

theorem itemTrees_eq_map (items : List Json) : itemTrees items = items.map tree := by
  induction items with
  | nil => rfl
  | cons first rest ih => rw [itemTrees, ih, List.map_cons]

theorem memberTrees_eq_map (members : List (String × Json)) :
    memberTrees members = members.map fun member => (some member.1, member.2.tree) := by
  induction members with
  | nil => rfl
  | cons first rest ih => rw [memberTrees, ih, List.map_cons]

/-- Items that are the values of their trees are read from them. -/
theorem itemsValue?_itemTrees {items : List Json}
    (each : ∀ item ∈ items, item.tree.value? = some item) :
    Tree.itemsValue? (itemTrees items) = some items := by
  induction items with
  | nil => rfl
  | cons first rest ih =>
      obtain ⟨firstRead, restRead⟩ := List.forall_mem_cons.mp each
      rw [itemTrees, Tree.itemsValue?, firstRead, ih restRead]
      rfl

/-- Members in order, whose values are those of their trees, are read behind the members before
them. -/
theorem membersValue?_memberTrees {members before : List (String × Json)}
    (ascending : Ascending (before ++ members))
    (each : ∀ member ∈ members, member.2.tree.value? = some member.2) :
    Tree.membersValue? (memberTrees members) before = some (before ++ members) := by
  induction members generalizing before with
  | nil => rw [memberTrees, Tree.membersValue?, List.append_nil]
  | cons first rest ih =>
      obtain ⟨firstRead, restRead⟩ := List.forall_mem_cons.mp each
      have last : ∀ entry ∈ before, entry.1 < first.1 := by
        intro entry member
        exact (List.pairwise_append.mp ascending).2.2 entry member first List.mem_cons_self
      rw [List.append_cons] at ascending ⊢
      rw [memberTrees, Tree.membersValue?, firstRead]
      show Tree.membersValue? (memberTrees rest) _ = _
      rw [Dictionary.insertSorted_last last, ih ascending restRead]

theorem itemsDepth_itemTrees {items : List Json} {depth : Nat}
    (each : ∀ item ∈ items, item.tree.depth ≤ depth) :
    Tree.itemsDepth (itemTrees items) ≤ depth := by
  induction items with
  | nil => exact Nat.zero_le _
  | cons first rest ih =>
      obtain ⟨firstShallow, restShallow⟩ := List.forall_mem_cons.mp each
      exact Nat.max_le.mpr ⟨firstShallow, ih restShallow⟩

theorem membersDepth_memberTrees {members : List (String × Json)} {depth : Nat}
    (each : ∀ member ∈ members, member.2.tree.depth ≤ depth) :
    Tree.membersDepth (memberTrees members) ≤ depth := by
  induction members with
  | nil => exact Nat.zero_le _
  | cons first rest ih =>
      obtain ⟨firstShallow, restShallow⟩ := List.forall_mem_cons.mp each
      exact Nat.max_le.mpr ⟨firstShallow, ih restShallow⟩

namespace Readable

variable {depth : Nat} {json : Json}

theorem depth_tree (readable : json.Readable depth) : json.tree.depth ≤ depth := by
  induction readable with
  | array _ ih => exact Nat.succ_le_succ (itemsDepth_itemTrees ih)
  | object _ _ ih => exact Nat.succ_le_succ (membersDepth_memberTrees ih)
  | _ => exact Nat.zero_le _

/-- A readable value is the value of its tree. -/
theorem value?_tree (readable : json.Readable depth) : json.tree.value? = some json := by
  induction readable with
  | array _ ih => rw [tree, Tree.value?, itemsValue?_itemTrees ih, Option.map_some]
  | @object _ members ascending _ ih =>
      have read : Tree.membersValue? (memberTrees members) [] = some members :=
        membersValue?_memberTrees ascending ih
      rw [tree, Tree.value?, read, Option.map_some]
  | _ => rfl

end Readable

/-- **The values of documents are the readable ones**, and each of them is read again from the tree
that it is written as. -/
theorem readable_iff {depth : Nat} {json : Json} :
    json.Readable depth ↔ ∃ tree : Tree, tree.depth ≤ depth ∧ tree.value? = some json := by
  constructor
  · intro readable
    exact ⟨json.tree, readable.depth_tree, readable.value?_tree⟩
  · rintro ⟨tree, shallow, valued⟩
    exact tree.readable_of_value? shallow valued

/-- Only a null is read as null. -/
theorem Tree.value?_eq_null_iff {tree : Tree} : tree.value? = some .null ↔ tree = .null := by
  cases tree with
  | null => simp [value?]
  | _ => simp [value?]

end Json

end TypedSql
