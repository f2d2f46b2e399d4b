import TypedSql.Text.SnakeCase

/-!
# Names in snake case have no capitals

No character is lowered to an ASCII capital: every partner in the tables stands behind the
capitals, and the capitals themselves are all moved. So a name in snake case stays as it is when
the case of ASCII letters is ignored (`toLower_snakeCase`), and two names that differ in snake
case differ also for a database that ignores case.
-/

set_option autoImplicit false

namespace TypedSql

namespace LetterCase

theorem Range.contains_iff {range : Range} {code : Nat} :
    range.contains code = true ↔
      range.first ≤ code ∧ code ≤ range.last ∧ (code - range.first) % range.step = 0 := by
  simp [contains, and_assoc]

theorem isUpper_iff {c : Char} : c.isUpper = true ↔ 65 ≤ c.toNat ∧ c.toNat ≤ 90 := by
  have meaning : c.isUpper = true ↔ 'A'.val ≤ c.val ∧ c.val ≤ 'Z'.val := decide_eq_true_iff
  rw [meaning, UInt32.le_iff_toNat_le, UInt32.le_iff_toNat_le]
  rfl

theorem isUpper_ofNat_eq_false {code : Nat} (behind : 90 < code) :
    (Char.ofNat code).isUpper = false := by
  rw [Bool.eq_false_iff, ne_eq, isUpper_iff]
  by_cases valid : code.isValidChar
  · have same : Char.ofNat code = Char.ofNatAux code valid := dif_pos valid
    have number : (Char.ofNat code).toNat = code := congrArg Char.toNat same
    omega
  · have same : Char.ofNat code = Char.ofNat 0 := dif_neg valid
    rw [same]
    decide

/-- Every partner of a character stands behind the ASCII capitals. -/
theorem lt_partner {shift : Shift} (member : shift ∈ shifts) :
    90 < shift.first + shift.distance := by
  have each : shifts.all fun shift => decide (90 < shift.first + shift.distance) := by
    decide +kernel
  exact of_decide_eq_true (List.all_eq_true.mp each shift member)

/-- No character is lowered to an ASCII capital. -/
theorem isUpper_eq_false_of_mem_lower {c lowered : Char} (member : lowered ∈ lower c) :
    lowered.isUpper = false := by
  rw [lower] at member
  split at member
  · rcases List.mem_cons.mp member with rfl | member
    · rfl
    · rw [List.mem_singleton.mp member]
      rfl
  · split at member
    next shift found =>
      rw [List.mem_singleton.mp member]
      have contains := List.find?_some found
      have inRange : shift.first ≤ c.toNat := (Range.contains_iff.mp contains).1
      have behind := lt_partner (List.mem_of_find?_eq_some found)
      exact isUpper_ofNat_eq_false (by omega)
    next unmoved =>
      rw [List.mem_singleton.mp member, Bool.eq_false_iff, ne_eq, isUpper_iff]
      -- The first shift moves the capitals, so a character that no shift moves is none of them.
      have outside := List.find?_eq_none.mp unmoved ⟨65, 90, 1, 32⟩ List.mem_cons_self
      rintro ⟨atLeast, atMost⟩
      exact outside (Range.contains_iff.mpr ⟨atLeast, atMost, Nat.mod_one _⟩)

end LetterCase

namespace SnakeCase

theorem isUpper_eq_false_of_mem_convertAfter {name : List Char} {previous : Option Char}
    {c : Char} (member : c ∈ convertAfter previous name) : c.isUpper = false := by
  induction name generalizing previous with
  | nil => cases member
  | cons current rest ih =>
      rw [convertAfter, List.append_assoc] at member
      rcases List.mem_append.mp member with inSeparator | behind
      · rw [separator] at inSeparator
        split at inSeparator
        · rw [List.mem_singleton.mp inSeparator]
          rfl
        · cases inSeparator
      · rcases List.mem_append.mp behind with lowered | inRest
        · exact LetterCase.isUpper_eq_false_of_mem_lower lowered
        · exact ih inRest

end SnakeCase

/-- A name in snake case stays as it is when case is ignored. -/
theorem toLower_snakeCase (name : String) : (snakeCase name).toLower = snakeCase name := by
  apply String.toList_injective
  have lowered : (snakeCase name).toLower = (snakeCase name).map Char.toLower := rfl
  rw [lowered, String.toList_map, snakeCase, String.toList_ofList]
  have same : ∀ c ∈ SnakeCase.convert name.toList, c.toLower = c := by
    intro c member
    have small := SnakeCase.isUpper_eq_false_of_mem_convertAfter member
    exact dif_neg (of_decide_eq_false small)
  exact (List.map_congr_left same).trans (List.map_id' _)

end TypedSql
