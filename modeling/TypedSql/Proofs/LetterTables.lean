import Mathlib.Data.List.Chain
import TypedSql.Proofs.SnakeCase

/-!
# Small letters

The tables of upper case, of lower case and of the shifts fit together. A character in lower case
is not in upper case, and no shift moves it. Every shift moves its characters into lower case, so
lowering is over after one step (`lower_cases`): what a character is lowered to is the character
itself, or it is neither in upper case nor moved again.

The ranges of a table are in ascending order, so one pass over two tables finds whether they have
a character in common (`areApart`). Ranges that overlap are then told apart by their parity, as in
the stretches where every capital stands before its small letter.
-/

set_option autoImplicit false

namespace TypedSql.LetterCase

/-! ## Tables without a common character -/

namespace Range

variable {one other range : Range} {code : Nat}

/-- Whether all code points of a range are odd or all are even. -/
def keepsParity (range : Range) : Bool := range.step == 2 || range.first == range.last

/-- Whether two ranges have no code point in common: one ends before the other begins, or one
holds odd code points and the other even ones. -/
def isApart (one other : Range) : Bool :=
  one.last < other.first || other.last < one.first ||
    (one.keepsParity && other.keepsParity && one.first % 2 != other.first % 2)

theorem mod_two_eq (keeps : range.keepsParity = true) (inside : range.contains code = true) :
    code % 2 = range.first % 2 := by
  obtain ⟨atLeast, atMost, onStep⟩ := contains_iff.mp inside
  simp only [keepsParity, Bool.or_eq_true, beq_iff_eq] at keeps
  rcases keeps with everySecond | single
  · rw [everySecond] at onStep
    omega
  · omega

theorem isApart_iff : one.isApart other = true ↔ one.last < other.first ∨
    other.last < one.first ∨ one.keepsParity = true ∧ other.keepsParity = true ∧
      one.first % 2 ≠ other.first % 2 := by
  simp [isApart, or_assoc, and_assoc]

theorem contains_eq_false_of_isApart (apart : one.isApart other = true)
    (inside : one.contains code = true) : other.contains code = false := by
  rw [Bool.eq_false_iff, ne_eq]
  intro inside'
  have bounds := contains_iff.mp inside
  have bounds' := contains_iff.mp inside'
  rcases isApart_iff.mp apart with before | behind | ⟨keeps, keeps', differs⟩
  · omega
  · omega
  · exact differs ((mod_two_eq keeps inside).symm.trans (mod_two_eq keeps' inside'))

/-- Whether every code point of a range is one of the other. -/
def isWithin (range other : Range) : Bool :=
  range.last ≤ other.last && other.contains range.first &&
    (range.step % other.step == 0 || range.first == range.last)

theorem contains_of_isWithin (within : range.isWithin other = true)
    (inside : range.contains code = true) : other.contains code = true := by
  simp only [isWithin, Bool.and_eq_true, Bool.or_eq_true, decide_eq_true_eq, beq_iff_eq] at within
  obtain ⟨⟨last, first⟩, steps⟩ := within
  obtain ⟨atLeast, atMost, onStep⟩ := contains_iff.mp inside
  obtain ⟨atLeast', atMost', onStep'⟩ := contains_iff.mp first
  refine contains_iff.mpr ⟨by omega, by omega, ?_⟩
  rcases steps with multiple | single
  · have parts : code - other.first = (code - range.first) + (range.first - other.first) := by
      omega
    rw [parts]
    exact Nat.mod_eq_zero_of_dvd (Nat.dvd_add
      (Nat.dvd_trans (Nat.dvd_of_mod_eq_zero multiple) (Nat.dvd_of_mod_eq_zero onStep))
      (Nat.dvd_of_mod_eq_zero onStep'))
  · have same : code = range.first := by omega
    rw [same, onStep']

end Range

/-- The ranges of a table in ascending order. -/
def Ascending (table : List Range) : Prop := table.Pairwise (·.first ≤ ·.first)

theorem ascending_of_isChain {table : List Range}
    (chain : table.IsChain (·.first ≤ ·.first)) : Ascending table := by
  have : Trans (fun one other : Range => one.first ≤ other.first)
      (fun one other : Range => one.first ≤ other.first)
      (fun one other : Range => one.first ≤ other.first) := ⟨Nat.le_trans⟩
  exact chain.pairwise

/-- Whether the ranges of one table are apart from those of another, by one pass over both. -/
def areApart : List Range → List Range → Bool
  | [], _ => true
  | one :: rest, others =>
      let ahead := others.dropWhile (·.last < one.first)
      (ahead.takeWhile (·.first ≤ one.last)).all one.isApart && areApart rest ahead

theorem mem_takeWhile_of_le {table : List Range} {range : Range} {bound : Nat}
    (ascending : Ascending table) (member : range ∈ table) (atMost : range.first ≤ bound) :
    range ∈ table.takeWhile (·.first ≤ bound) := by
  induction table with
  | nil => cases member
  | cons head rest ih =>
      obtain ⟨least, ascending⟩ := List.pairwise_cons.mp ascending
      rcases List.mem_cons.mp member with rfl | member
      · simp [atMost]
      · have passes : head.first ≤ bound := Nat.le_trans (least range member) atMost
        simp [passes, ih ascending member]

/-- A range is ahead of the pass, or it ends before the pass begins. -/
theorem mem_dropWhile_or_lt {table : List Range} {range : Range} (member : range ∈ table)
    (bound : Nat) :
    range ∈ table.dropWhile (·.last < bound) ∨ range.last < bound := by
  rw [← List.takeWhile_append_dropWhile (p := (·.last < bound)) (l := table)] at member
  rcases List.mem_append.mp member with passed | ahead
  · exact .inr (of_decide_eq_true (List.all_eq_true.mp List.all_takeWhile range passed))
  · exact .inl ahead

theorem isApart_of_areApart {ones others : List Range} (ascending : Ascending ones)
    (ascending' : Ascending others) (apart : areApart ones others = true) {one other : Range}
    (member : one ∈ ones) (member' : other ∈ others) : one.isApart other = true := by
  induction ones generalizing others with
  | nil => cases member
  | cons head rest ih =>
      simp only [areApart, Bool.and_eq_true, List.all_eq_true] at apart
      obtain ⟨here, later⟩ := apart
      obtain ⟨least, ascending⟩ := List.pairwise_cons.mp ascending
      have ascendingAhead : Ascending (others.dropWhile (·.last < head.first)) :=
        ascending'.sublist (List.dropWhile_sublist _)
      have first : head.first ≤ one.first := by
        rcases List.mem_cons.mp member with rfl | member
        · exact Nat.le_refl _
        · exact least one member
      rcases mem_dropWhile_or_lt member' head.first with ahead | passed
      · rcases List.mem_cons.mp member with rfl | member
        · by_cases reached : other.first ≤ one.last
          · exact here other (mem_takeWhile_of_le ascendingAhead ahead reached)
          · exact Range.isApart_iff.mpr (.inl (Nat.lt_of_not_le reached))
        · exact ih ascending ascendingAhead later member ahead
      · exact Range.isApart_iff.mpr (.inr (.inl (Nat.lt_of_lt_of_le passed first)))

theorem contains_eq_false_of_areApart {ones others : List Range} {code : Nat}
    (ascending : Ascending ones) (ascending' : Ascending others)
    (apart : areApart ones others = true) (inside : ones.any (·.contains code) = true) :
    ∀ other ∈ others, other.contains code = false := by
  intro other member'
  obtain ⟨one, member, within⟩ := List.any_eq_true.mp inside
  exact Range.contains_eq_false_of_isApart
    (isApart_of_areApart ascending ascending' apart member member') within

/-! ## The tables fit together -/

theorem ascending_lowercase : Ascending lowercase := ascending_of_isChain (by decide +kernel)

theorem ascending_uppercase : Ascending uppercase := ascending_of_isChain (by decide +kernel)

theorem ascending_shifts : Ascending (shifts.map Shift.range) :=
  ascending_of_isChain (by decide +kernel)

variable {c : Char}

theorem isUpper_eq_false_of_isLower (small : isLower c = true) : isUpper c = false := by
  have apart : areApart lowercase uppercase = true := by decide +kernel
  rw [isUpper, List.any_eq_false]
  intro range member
  rw [contains_eq_false_of_areApart ascending_lowercase ascending_uppercase apart small range
    member]
  exact Bool.false_ne_true

/-- A character in lower case is its own lower case form. -/
theorem lower_of_isLower (small : isLower c = true) : lower c = [c] := by
  have notDotted : c ≠ 'İ' := by
    rintro rfl
    exact absurd small (by decide +kernel)
  have apart : areApart lowercase (shifts.map Shift.range) = true := by decide +kernel
  have unmoved : shifts.find? (·.range.contains c.toNat) = none := by
    rw [List.find?_eq_none]
    intro shift member
    rw [contains_eq_false_of_areApart ascending_lowercase ascending_shifts apart small _
      (List.mem_map_of_mem member)]
    exact Bool.false_ne_true
  rw [lower, if_neg notDotted, unmoved]

/-! ## What a character is lowered to -/

/-- The code points that a shift moves to. -/
def Shift.partners (shift : Shift) : Range :=
  ⟨(shift.first + shift.distance).toNat, (shift.last + shift.distance).toNat, shift.step⟩

theorem contains_partners {shift : Shift} {code : Nat} (member : shift ∈ shifts)
    (inside : shift.range.contains code = true) :
    shift.partners.contains (code + shift.distance).toNat = true := by
  obtain ⟨atLeast, atMost, onStep⟩ := Range.contains_iff.mp inside
  have behind := lt_partner member
  simp only [Shift.range] at atLeast atMost onStep
  have offset : (code + shift.distance).toNat - (shift.first + shift.distance).toNat =
      code - shift.first := by omega
  refine Range.contains_iff.mpr ⟨?_, ?_, ?_⟩
  · exact Int.toNat_le_toNat (by omega)
  · exact Int.toNat_le_toNat (by omega)
  · exact offset ▸ onStep

/-- Every shift leads into a range of lower case. -/
theorem exists_isWithin_partners {shift : Shift} (member : shift ∈ shifts) :
    ∃ range ∈ lowercase, shift.partners.isWithin range = true := by
  have each : shifts.all fun shift => lowercase.any shift.partners.isWithin := by
    decide +kernel
  exact List.any_eq_true.mp (List.all_eq_true.mp each shift member)

/-- The characters in lower case are characters, and stand behind the ASCII capitals, the
digits and the underscore. -/
theorem bounds_of_mem_lowercase {range : Range} (member : range ∈ lowercase) :
    96 < range.first ∧ (range.last < 0xd800 ∨ 0xdfff < range.first ∧ range.last < 0x110000) := by
  have each : lowercase.all fun range => decide (96 < range.first ∧
      (range.last < 0xd800 ∨ 0xdfff < range.first ∧ range.last < 0x110000)) := by
    decide +kernel
  exact of_decide_eq_true (List.all_eq_true.mp each range member)

theorem toNat_ofNat_of_mem_lowercase {range : Range} {code : Nat} (member : range ∈ lowercase)
    (inside : range.contains code = true) : (Char.ofNat code).toNat = code := by
  have bounds := bounds_of_mem_lowercase member
  have within := Range.contains_iff.mp inside
  have valid : code.isValidChar := by
    rcases bounds.2 with low | high
    · exact .inl (by omega)
    · exact .inr ⟨by omega, by omega⟩
  exact congrArg Char.toNat (dif_pos valid)

theorem isLower_partner {shift : Shift} {code : Nat} (member : shift ∈ shifts)
    (inside : shift.range.contains code = true) :
    isLower (Char.ofNat (code + shift.distance).toNat) = true := by
  obtain ⟨range, small, within⟩ := exists_isWithin_partners member
  have moved := Range.contains_of_isWithin within (contains_partners member inside)
  refine List.any_eq_true.mpr ⟨range, small, ?_⟩
  rw [toNat_ofNat_of_mem_lowercase small moved]
  exact moved

theorem lt_toNat_of_isLower (small : isLower c = true) : 96 < c.toNat := by
  obtain ⟨range, member, inside⟩ := List.any_eq_true.mp small
  exact Nat.lt_of_lt_of_le (bounds_of_mem_lowercase member).1 (Range.contains_iff.mp inside).1

/-- What another character is lowered to: it is no capital, it is not lowered any further, and
it is neither an underscore nor a digit. -/
structure IsMoved (c : Char) : Prop where
  isUpper_eq_false : isUpper c = false
  lower_eq : lower c = [c]
  lt_toNat : 96 < c.toNat

theorem IsMoved.of_isLower (small : isLower c = true) : IsMoved c :=
  ⟨isUpper_eq_false_of_isLower small, lower_of_isLower small, lt_toNat_of_isLower small⟩

/-- **Lowering is over after one step**: a character stays, or nothing of what it becomes moves
again. -/
theorem lower_cases (c : Char) : lower c = [c] ∨ ∀ lowered ∈ lower c, IsMoved lowered := by
  by_cases dotted : c = 'İ'
  · right
    subst dotted
    intro lowered member
    rcases List.mem_pair.mp member with rfl | rfl
    · exact .of_isLower (by decide +kernel)
    · exact ⟨by decide +kernel, by decide +kernel, by decide⟩
  · rw [lower, if_neg dotted]
    split
    next shift found =>
      right
      intro lowered member
      rw [List.mem_singleton.mp member]
      have inside := List.find?_some found
      exact .of_isLower (isLower_partner (List.mem_of_find?_eq_some found) inside)
    next => exact .inl rfl

theorem lower_ne_nil (c : Char) : lower c ≠ [] := by
  rw [lower]
  split
  · exact List.cons_ne_nil _ _
  · split <;> exact List.cons_ne_nil _ _

variable {lowered : Char}

theorem lower_of_mem_lower (member : lowered ∈ lower c) : lower lowered = [lowered] := by
  rcases lower_cases c with same | moved
  · rw [same, List.mem_singleton] at member
    rw [member, same]
  · exact (moved lowered member).lower_eq

/-- Only a character that stays can be left as a capital, a digit or an underscore. -/
theorem eq_of_mem_lower (member : lowered ∈ lower c)
    (early : isUpper lowered = true ∨ lowered.toNat ≤ 96) : lowered = c ∧ lower c = [c] := by
  rcases lower_cases c with same | moved
  · exact ⟨List.mem_singleton.mp (same ▸ member), same⟩
  · have behind := (moved lowered member).lt_toNat
    have small := (moved lowered member).isUpper_eq_false
    rcases early with large | before
    · rw [small] at large
      cases large
    · omega

end TypedSql.LetterCase
