import TypedSql.Proofs.LetterTables

/-!
# Separators between words

A name in snake case is the name, lowered character by character, with underscores put in between.
`IsSeparated` says what this means of the two texts alone, without the rule by which words are
found: nothing is lost, moved or written twice, no underscore is put at an end of the name or
beside another one, and none at all into a name without capitals.

An underscore of the converted name is either one that the name has, and then both parts of the
name are converted each on its own, or a separator, which stands behind some character and before
one that is no underscore (`underscore_cases`).
-/

set_option autoImplicit false

namespace TypedSql

namespace SnakeCase

open LetterCase

/-- A name, lowered character by character. -/
def lowered (name : List Char) : List Char := name.flatMap lower

/-- A text after all its underscores are deleted. -/
def withoutUnderscores (text : List Char) : List Char := text.filter (· != '_')

/-- A text is a name, lowered character by character, with separators between words. -/
structure IsSeparated (name text : List Char) : Prop where
  /-- But for underscores the text is the lowered name, with its underscores deleted after or
  before it is lowered. -/
  letters : withoutUnderscores text = withoutUnderscores (lowered name) ∧
    withoutUnderscores text = lowered (withoutUnderscores name)
  /-- The underscores of the name are kept as well. -/
  kept : (lowered name).Sublist text
  starts : text.head? = some '_' ↔ name.head? = some '_'
  ends : text.getLast? = some '_' ↔ name.getLast? = some '_'
  /-- Adjacent underscores of the text stand where the name has them, with the same letters
  before and behind. -/
  adjacent : ∀ before after, text = before ++ '_' :: '_' :: after →
    ∃ front back, name = front ++ '_' :: '_' :: back ∧
      withoutUnderscores before = withoutUnderscores (lowered front) ∧
      withoutUnderscores after = withoutUnderscores (lowered back)
  /-- A name without capitals is lowered and gains no underscore. -/
  plain : (∀ c ∈ name, isUpper c = false) → text = lowered name ∧ text.count '_' = name.count '_'

/-! ## Underscores and lowering -/

theorem isUpper_underscore : isUpper '_' = false := by decide +kernel

theorem isLower_underscore : isLower '_' = false := by decide +kernel

theorem lower_underscore : lower '_' = ['_'] := by decide +kernel

theorem eq_of_underscore_mem {c : Char} (member : '_' ∈ lower c) : c = '_' :=
  (eq_of_mem_lower member (.inr (by decide))).1.symm

theorem count_lower (c : Char) : (lower c).count '_' = if c = '_' then 1 else 0 := by
  by_cases same : c = '_'
  · rw [if_pos same, same, lower_underscore]
    rfl
  · rw [if_neg same, List.count_eq_zero]
    exact fun member => same (eq_of_underscore_mem member)

theorem lowered_cons (c : Char) (rest : List Char) :
    lowered (c :: rest) = lower c ++ lowered rest := rfl

theorem count_lowered (name : List Char) : (lowered name).count '_' = name.count '_' := by
  induction name with
  | nil => rfl
  | cons c rest ih =>
      rw [lowered_cons, List.count_append, count_lower, ih, List.count_cons, Nat.add_comm]
      simp

theorem withoutUnderscores_lower {c : Char} (different : c ≠ '_') :
    withoutUnderscores (lower c) = lower c := by
  rw [withoutUnderscores, List.filter_eq_self]
  intro d member
  rw [bne_iff_ne]
  rintro rfl
  exact different (eq_of_underscore_mem member)

theorem withoutUnderscores_append (one other : List Char) :
    withoutUnderscores (one ++ other) = withoutUnderscores one ++ withoutUnderscores other :=
  List.filter_append ..

theorem withoutUnderscores_lowered (name : List Char) :
    withoutUnderscores (lowered name) = lowered (withoutUnderscores name) := by
  induction name with
  | nil => rfl
  | cons c rest ih =>
      rw [lowered_cons, withoutUnderscores_append, ih]
      by_cases same : c = '_'
      · subst same
        rw [lower_underscore]
        rfl
      · have kept : withoutUnderscores (c :: rest) = c :: withoutUnderscores rest := by
          simp [withoutUnderscores, same]
        rw [withoutUnderscores_lower same, kept, lowered_cons]

/-! ## Where separators stand -/

variable {previous : Option Char} {name before after : List Char}

theorem startsWord_behind_underscore (current : Char) (next : Option Char) :
    startsWord '_' current next = false := by
  have noDigit : '_'.isDigit = false := rfl
  simp [startsWord, isLower_underscore, isUpper_underscore, noDigit]

theorem startsWord_of_not_isUpper {current : Char} (small : isUpper current = false)
    (before : Char) (next : Option Char) : startsWord before current next = false := by
  simp [startsWord, small]

/-- An underscore that follows is like an end of the name. -/
theorem separator_before_underscore (previous : Option Char) (current : Char)
    (front back : List Char) :
    separator previous current (front ++ '_' :: back).head? =
      separator previous current front.head? := by
  cases front with
  | nil => simp [separator, startsWord, isLower_underscore]
  | cons _ _ => rfl

/-- A separator is a single underscore between two characters that are none. -/
theorem separator_cases (previous : Option Char) (current : Char) (next : Option Char) :
    separator previous current next = [] ∨
      separator previous current next = ['_'] ∧ previous ≠ none ∧ current ≠ '_' := by
  rw [separator]
  split
  next starts =>
    right
    obtain ⟨before, rfl, word⟩ := (Option.any_eq_true ..).mp starts
    refine ⟨rfl, Option.some_ne_none _, ?_⟩
    rintro rfl
    rw [startsWord_of_not_isUpper isUpper_underscore] at word
    cases word
  next => exact .inl rfl

theorem withoutUnderscores_separator (previous : Option Char) (current : Char)
    (next : Option Char) : withoutUnderscores (separator previous current next) = [] := by
  rcases separator_cases previous current next with none | ⟨underscore, -⟩
  · rw [none]
    rfl
  · rw [underscore]
    rfl

theorem convertAfter_some_underscore (name : List Char) :
    convertAfter (some '_') name = convert name := by
  cases name with
  | nil => rfl
  | cons c rest =>
      have none : separator (some '_') c rest.head? = [] := by
        simp [separator, startsWord_behind_underscore]
      rw [convert, convertAfter, convertAfter, none]
      rfl

theorem convertAfter_underscore_cons (previous : Option Char) (rest : List Char) :
    convertAfter previous ('_' :: rest) = '_' :: convert rest := by
  rcases separator_cases previous '_' rest.head? with none | ⟨-, -, different⟩
  · rw [convertAfter, none, lower_underscore, convertAfter_some_underscore]
    rfl
  · exact absurd rfl different

/-- **The parts of a name at an underscore are converted each on its own.** -/
theorem convertAfter_append_underscore (previous : Option Char) (front back : List Char) :
    convertAfter previous (front ++ '_' :: back) =
      convertAfter previous front ++ '_' :: convert back := by
  induction front generalizing previous with
  | nil => exact convertAfter_underscore_cons previous back
  | cons c front ih =>
      rw [List.cons_append, convertAfter, separator_before_underscore, ih, convertAfter,
        List.append_assoc _ _ ('_' :: convert back)]

theorem exists_of_append_eq {word text : List Char} (absent : '_' ∉ word)
    (same : word ++ text = before ++ '_' :: after) :
    ∃ rest, before = word ++ rest ∧ text = rest ++ '_' :: after := by
  rcases List.append_eq_append_iff.mp same with ⟨rest, rfl, rfl⟩ | ⟨rest, rfl, follows⟩
  · exact ⟨rest, rfl, rfl⟩
  · cases rest with
    | nil => exact ⟨[], by simp, by simpa using follows.symm⟩
    | cons c rest =>
        obtain ⟨rfl, -⟩ := List.cons.inj follows
        exact absurd (List.mem_append_right before List.mem_cons_self) absent

/-- An underscore that is written for a name is the separator before the first character, if that
character is no underscore itself, or it stands behind what the first character is lowered to. -/
theorem underscore_of_cons {c : Char} {rest : List Char} (different : c ≠ '_')
    (converted : convertAfter previous (c :: rest) = before ++ '_' :: after) :
    (before = [] ∧ previous ≠ none ∧ after = lower c ++ convertAfter (some c) rest) ∨
    ∃ between, before = separator previous c rest.head? ++ lower c ++ between ∧
      convertAfter (some c) rest = between ++ '_' :: after := by
  have absent : '_' ∉ lower c := fun member => different (eq_of_underscore_mem member)
  rw [convertAfter, List.append_assoc] at converted
  rcases separator_cases previous c rest.head? with none | ⟨written, behind, -⟩
  · rw [none, List.nil_append] at converted
    rw [none]
    exact .inr (exists_of_append_eq absent converted)
  · rw [written] at converted ⊢
    cases before with
    | nil => exact .inl ⟨rfl, behind, (List.cons.inj converted).2.symm⟩
    | cons head before =>
        obtain ⟨rfl, later⟩ := List.cons.inj converted
        obtain ⟨between, rfl, follows⟩ := exists_of_append_eq absent later
        exact .inr ⟨between, rfl, follows⟩

/-- **An underscore that is written is one of the name, or a separator**, which stands behind a
character and before one that is no underscore. -/
theorem underscore_cases (converted : convertAfter previous name = before ++ '_' :: after) :
    (∃ front back, name = front ++ '_' :: back ∧ convertAfter previous front = before ∧
      convert back = after) ∨
    (∃ next, after.head? = some next ∧ next ≠ '_') ∧ (before = [] → previous ≠ none) := by
  induction name generalizing previous before with
  | nil => simp [convertAfter] at converted
  | cons c rest ih =>
      by_cases underscore : c = '_'
      · subst underscore
        rw [convertAfter_underscore_cons] at converted
        cases before with
        | nil => exact .inl ⟨[], rest, rfl, rfl, (List.cons.inj converted).2⟩
        | cons head before =>
            obtain ⟨rfl, later⟩ := List.cons.inj converted
            rcases ih later with ⟨front, back, rfl, rfl, rfl⟩ | ⟨next, -⟩
            · exact .inl ⟨'_' :: front, back, rfl, convertAfter_underscore_cons .., rfl⟩
            · exact .inr ⟨next, fun empty => absurd empty (List.cons_ne_nil _ _)⟩
      · rcases underscore_of_cons underscore converted with
          ⟨rfl, behind, rfl⟩ | ⟨between, rfl, follows⟩
        · right
          obtain ⟨first, others, form⟩ := List.exists_cons_of_ne_nil (lower_ne_nil c)
          refine ⟨⟨first, by rw [form]; rfl, ?_⟩, fun _ => behind⟩
          rintro rfl
          exact underscore (eq_of_underscore_mem (form ▸ List.mem_cons_self))
        · rcases ih follows with ⟨front, back, rfl, rfl, rfl⟩ | ⟨next, -⟩
          · left
            refine ⟨c :: front, back, rfl, ?_, rfl⟩
            rw [convertAfter, separator_before_underscore]
          · right
            refine ⟨next, fun empty => ?_⟩
            simp [lower_ne_nil] at empty

/-! ## The whole name -/

theorem withoutUnderscores_convertAfter (previous : Option Char) (name : List Char) :
    withoutUnderscores (convertAfter previous name) = withoutUnderscores (lowered name) := by
  induction name generalizing previous with
  | nil => rfl
  | cons c rest ih =>
      rw [convertAfter, withoutUnderscores_append, withoutUnderscores_append,
        withoutUnderscores_separator, ih, lowered_cons, withoutUnderscores_append]
      rfl

theorem lowered_sublist_convertAfter (previous : Option Char) (name : List Char) :
    (lowered name).Sublist (convertAfter previous name) := by
  induction name generalizing previous with
  | nil => exact List.Sublist.refl _
  | cons c rest ih =>
      exact (List.sublist_append_right _ _).append (ih (some c))

theorem convertAfter_of_no_capital (previous : Option Char)
    (small : ∀ c ∈ name, isUpper c = false) : convertAfter previous name = lowered name := by
  induction name generalizing previous with
  | nil => rfl
  | cons c rest ih =>
      have none : separator previous c rest.head? = [] := by
        cases previous <;>
          simp [separator, startsWord_of_not_isUpper (small c List.mem_cons_self)]
      rw [convertAfter, none, ih _ fun c member => small c (List.mem_cons_of_mem _ member)]
      rfl

theorem convert_eq_nil_iff : convert name = [] ↔ name = [] := by
  cases name with
  | nil => exact ⟨fun _ => rfl, fun _ => rfl⟩
  | cons c rest => simp [convert, convertAfter, lower_ne_nil]

theorem head?_convert_eq_underscore_iff :
    (convert name).head? = some '_' ↔ name.head? = some '_' := by
  cases name with
  | nil => exact Iff.rfl
  | cons c rest =>
      constructor
      · intro head
        obtain ⟨first, others, form⟩ := List.exists_cons_of_ne_nil (lower_ne_nil c)
        obtain rfl : first = '_' := by
          simpa [convert, convertAfter, separator, form] using head
        have same : c = '_' := eq_of_underscore_mem (form ▸ List.mem_cons_self)
        rw [same]
        rfl
      · intro head
        obtain rfl : c = '_' := Option.some.inj head
        rw [convert, convertAfter_underscore_cons]
        rfl

theorem getLast?_convert_eq_underscore_iff :
    (convert name).getLast? = some '_' ↔ name.getLast? = some '_' := by
  simp only [List.getLast?_eq_some_iff]
  constructor
  · rintro ⟨before, converted⟩
    rcases underscore_cases converted with ⟨front, back, rfl, -, none⟩ | ⟨⟨_, none, -⟩, -⟩
    · rw [convert_eq_nil_iff.mp none]
      exact ⟨front, rfl⟩
    · cases none
  · rintro ⟨front, rfl⟩
    exact ⟨convert front, convertAfter_append_underscore none front []⟩

/-- Adjacent underscores are written just where the name has them. -/
theorem convert_eq_adjacent_iff :
    convert name = before ++ '_' :: '_' :: after ↔
      ∃ front back, name = front ++ '_' :: '_' :: back ∧ convert front = before ∧
        convert back = after := by
  constructor
  · intro converted
    rcases underscore_cases converted with ⟨front, rest, rfl, converts, follows⟩ | ⟨next, -⟩
    · have atStart : convert rest = [] ++ '_' :: after := follows
      rcases underscore_cases atStart with ⟨first, back, rfl, none, ends⟩ | ⟨-, behind⟩
      · rw [convert_eq_nil_iff.mp none]
        exact ⟨front, back, rfl, converts, ends⟩
      · exact absurd rfl (behind rfl)
    · obtain ⟨c, head, different⟩ := next
      exact absurd (Option.some.inj head).symm different
  · rintro ⟨front, back, rfl, rfl, rfl⟩
    rw [convert, convertAfter_append_underscore, convert, convertAfter_underscore_cons]
    rfl

end SnakeCase

/-- **Snake case only puts separators between words.** -/
theorem snakeCase_isSeparated (name : String) :
    SnakeCase.IsSeparated name.toList (snakeCase name).toList := by
  rw [snakeCase, String.toList_ofList]
  have letters := SnakeCase.withoutUnderscores_convertAfter none name.toList
  refine ⟨⟨letters, letters.trans (SnakeCase.withoutUnderscores_lowered _)⟩,
    SnakeCase.lowered_sublist_convertAfter none _, SnakeCase.head?_convert_eq_underscore_iff,
    SnakeCase.getLast?_convert_eq_underscore_iff, ?_, ?_⟩
  · intro before after converted
    obtain ⟨front, back, parts, rfl, rfl⟩ := SnakeCase.convert_eq_adjacent_iff.mp converted
    exact ⟨front, back, parts, SnakeCase.withoutUnderscores_convertAfter none front,
      SnakeCase.withoutUnderscores_convertAfter none back⟩
  · intro small
    have same := SnakeCase.convertAfter_of_no_capital none small
    refine ⟨same, ?_⟩
    rw [SnakeCase.convert, same, SnakeCase.count_lowered]

end TypedSql
