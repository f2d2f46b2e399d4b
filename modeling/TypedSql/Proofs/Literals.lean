import TypedSql.Stored

/-!
# The characters of numbers in SQL text

A number is written with digits and a point behind at most one minus sign, and the three numbers
that have no digits as letters (`IsSigned`). None of these characters means anything to a reader
of quotes, and no two signs meet.
-/

set_option autoImplicit false

namespace TypedSql

/-- Whether a character may stand in a number behind its sign. -/
def isDigitOrPoint (c : Char) : Bool := c.isAlphanum || c == '.'

/-- Whether a character may stand in a number. -/
def isNumberChar (c : Char) : Bool := isDigitOrPoint c || c == '-'

/-- The text of a number: some characters other than a sign, and at most one sign before them. -/
def IsSigned (text : List Char) : Prop :=
  ∃ digits, (text = digits ∨ text = '-' :: digits) ∧ digits ≠ [] ∧
    ∀ c ∈ digits, isDigitOrPoint c = true

theorem IsSigned.isNumberChar_of_mem {text : List Char} (signed : IsSigned text) {c : Char}
    (member : c ∈ text) : isNumberChar c = true := by
  obtain ⟨digits, rfl | rfl, _, each⟩ := signed
  · simp [isNumberChar, each c member]
  · rcases List.mem_cons.mp member with rfl | inside
    · rfl
    · simp [isNumberChar, each c inside]

theorem isDigitOrPoint_of_isDigit {c : Char} (digit : c.isDigit = true) :
    isDigitOrPoint c = true := by
  simp [isDigitOrPoint, Char.isAlphanum, digit]

/-! ## Decimal digits -/

theorem isDigit_of_mem_decimalDigits {n : Nat} {c : Char} (member : c ∈ decimalDigits n) :
    c.isDigit = true :=
  Nat.isDigit_of_mem_toDigits (by decide) (by decide) member

theorem isDigitOrPoint_of_mem_decimalDigits {n : Nat} {c : Char} (member : c ∈ decimalDigits n) :
    isDigitOrPoint c = true :=
  isDigitOrPoint_of_isDigit (isDigit_of_mem_decimalDigits member)

theorem decimalDigits_ne_nil (n : Nat) : decimalDigits n ≠ [] :=
  List.ne_nil_of_length_pos Nat.length_toDigits_pos

theorem isSigned_integerDigits (n : Int) : IsSigned (integerDigits n) := by
  refine ⟨decimalDigits n.natAbs, ?_, decimalDigits_ne_nil _,
    fun _ => isDigitOrPoint_of_mem_decimalDigits⟩
  rw [integerDigits]
  split
  · exact .inr rfl
  · exact .inl rfl

/-! ## Doubles -/

namespace Decimal

theorem isDigitOrPoint_of_mem_withPoint {digits : List Char} {places : Nat}
    (each : ∀ c ∈ digits, isDigitOrPoint c = true) {c : Char}
    (member : c ∈ withPoint digits places) : isDigitOrPoint c = true := by
  have padded : ∀ d ∈ List.replicate (places + 1 - digits.length) '0' ++ digits,
      isDigitOrPoint d = true := by
    intro d inPadded
    rcases List.mem_append.mp inPadded with zero | digit
    · rw [(List.mem_replicate.mp zero).2]
      rfl
    · exact each d digit
  rcases List.mem_append.mp member with before | after
  · exact padded c (List.mem_of_mem_take before)
  · rcases List.mem_cons.mp after with rfl | behind
    · rfl
    · exact padded c (List.mem_of_mem_drop behind)

theorem isDigitOrPoint_of_mem_plain {x : Decimal} {c : Char} (member : c ∈ x.plain) :
    isDigitOrPoint c = true := by
  simp only [plain] at member
  split at member
  · rcases List.mem_append.mp member with digit | zero
    · exact isDigitOrPoint_of_mem_decimalDigits digit
    · rw [(List.mem_replicate.mp zero).2]
      rfl
  · exact isDigitOrPoint_of_mem_withPoint
      (fun _ => isDigitOrPoint_of_mem_decimalDigits) member

theorem plain_ne_nil (x : Decimal) : x.plain ≠ [] := by
  simp only [plain]
  split
  · simp [decimalDigits_ne_nil]
  · simp [withPoint]

end Decimal

theorem Binary64.isSigned_plainText (x : Binary64) : IsSigned x.plainText := by
  have word {text : List Char} (each : text.all isDigitOrPoint = true) :
      ∀ c ∈ text, isDigitOrPoint c = true := List.all_eq_true.mp each
  have magnitude : (if x.isFinite then (x.shortest .away).plain else "inf".toList) ≠ [] ∧
      ∀ c ∈ if x.isFinite then (x.shortest .away).plain else "inf".toList,
        isDigitOrPoint c = true := by
    split
    · exact ⟨Decimal.plain_ne_nil _, fun _ => Decimal.isDigitOrPoint_of_mem_plain⟩
    · exact ⟨by decide, word (by decide)⟩
  simp only [plainText]
  split
  · exact ⟨_, .inl rfl, by decide, word (by decide)⟩
  · split
    · exact ⟨_, .inr rfl, magnitude⟩
    · exact ⟨_, .inl rfl, magnitude⟩

end TypedSql
