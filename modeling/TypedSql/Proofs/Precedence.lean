import TypedSql.Proofs.Reading

/-!
# Operators and their operands in the text of an expression

In SQL a prefix `NOT` binds looser than every comparison. The text of an expression has
parentheses around every operator and every junction, and none around a negation. So its
operators take the operands that they have in the expression as long as no operator has a
negation as its left operand, which is what `Expr.guarded` says.

The main statement, `Expr.operands_iff_guarded`, is that this condition is exact: under the
precedence of SQL the text of an expression is read as the phrase that the expression is meant
to be if and only if the expression is guarded. Where it is not, the operator ends up inside
the negation (`Expr.negatedEquality_misread`). A reader to whom `NOT` binds tighter than every
operator makes the meant phrase of every text (`Expr.reading_beyond`).
-/

set_option autoImplicit false

namespace TypedSql

open Sql

/-! ## Phrases with the same parts -/

theorem Operator.between_eq_between {operator : Operator} {right right' left left' : Phrase} :
    operator.between right left = operator.between right' left' ↔
      left = left' ∧ right = right' := by
  rw [between, between]
  split <;> simp [among]

theorem Operator.among_eq_among {operator : Operator} {members members' : List Phrase}
    {left left' : Phrase} :
    operator.among members left = operator.among members' left' ↔
      left = left' ∧ members = members' := by
  simp [among]

theorem Operator.not_ne_among {operator : Operator} {members : List Phrase}
    {left inner : Phrase} : Phrase.not inner ≠ operator.among members left := by
  simp [among]

theorem Operator.not_ne_between {operator : Operator} {right left inner : Phrase} :
    Phrase.not inner ≠ operator.between right left := by
  rw [between]
  split <;> exact Phrase.noConfusion

/-- Chains of equal length are equal when their members are. -/
theorem Junction.foldl_eq_foldl (kind : Junction) {rest rest' : List Phrase}
    (same : rest.length = rest'.length) {first first' : Phrase} :
    rest.foldl (.binary kind.asInfix) first = rest'.foldl (.binary kind.asInfix) first' ↔
      first = first' ∧ rest = rest' := by
  induction rest generalizing rest' first first' with
  | nil =>
      cases rest' with
      | nil => simp
      | cons second others => cases same
  | cons second rest ih =>
      cases rest' with
      | nil => cases same
      | cons second' rest' =>
          have shorter : rest.length = rest'.length := Nat.succ.inj same
          simp [ih shorter, and_assoc]

theorem Junction.joined_eq_joined (kind : Junction) {members members' : List Phrase}
    (same : members.length = members'.length) :
    kind.joined members = kind.joined members' ↔ members = members' := by
  cases members with
  | nil =>
      cases members' with
      | nil => exact iff_of_true rfl rfl
      | cons first rest => cases same
  | cons first rest =>
      cases members' with
      | nil => cases same
      | cons first' rest' =>
          simp [joined, kind.foldl_eq_foldl (Nat.succ.inj same)]

namespace Expr

/-! ## Negations on the left of an operator -/

/-- Whether an expression is a negation. -/
def isNegation : Expr → Bool
  | not _ => true
  | _ => false

mutual

/-- Whether no operator of an expression has a negation as its left operand. -/
def guarded : Expr → Bool
  | column _ => true
  | literal _ => true
  | binary left _ right => !left.isNegation && left.guarded && right.guarded
  | ofList left _ _ => !left.isNegation && left.guarded
  | ofTruth left _ _ => !left.isNegation && left.guarded
  | junction _ members => allGuarded members
  | not inner => inner.guarded

/-- Whether all of a list of expressions are guarded. -/
def allGuarded : List Expr → Bool
  | [] => true
  | first :: rest => first.guarded && allGuarded rest

end

variable {negation : Nat}

theorem length_readingsOfAll (members : List Expr) (index : Nat) :
    (readingsOfAll negation index members).length = (phrasesOfAll index members).length := by
  induction members generalizing index with
  | nil => rfl
  | cons first rest ih => simp [readingsOfAll, phrasesOfAll, ih]

/-- Only a negation takes the operator behind it. -/
theorem under_reading {e : Expr} (noNegation : e.isNegation = false) (index level : Nat)
    (build : Phrase → Phrase) :
    (e.reading negation index).under negation level build = build (e.reading negation index) := by
  cases e with
  | not inner => cases noNegation
  | literal value =>
      cases value with
      | bool truth => cases truth <;> rfl
      | _ => rfl
  | junction kind members => cases members <;> rfl
  | _ => rfl

theorem under_beyond (operator : Operator) (build : Phrase → Phrase) (left : Phrase) :
    left.under Infix.beyond operator.asInfix.level build = build left := by
  have looser : ¬ Infix.beyond ≤ operator.asInfix.level :=
    Nat.not_le_of_lt operator.asInfix.level_lt_beyond
  cases left with
  | not inner => rw [Phrase.under, if_neg looser]
  | _ => rfl

theorem notLevel_le (operator : Operator) : Infix.notLevel ≤ operator.asInfix.level := by
  cases operator <;> decide

/-- An operator behind a reading is an operator behind the meant phrase exactly if the reading
is the meant phrase and no negation. -/
theorem under_reading_eq_iff {left : Expr} {index : Nat} {level : Nat} {build : Phrase → Phrase}
    {meant : Phrase} (tight : negation ≤ level)
    (apart : ∀ inner, Phrase.not inner ≠ meant) :
    (left.reading negation index).under negation level build = meant ↔
      left.isNegation = false ∧ build (left.reading negation index) = meant := by
  cases isNegation : left.isNegation with
  | false => simp [under_reading isNegation]
  | true =>
      cases left with
      | not inner => simp [reading, Phrase.under, tight, apart]
      | _ => cases isNegation

mutual

/-- When `NOT` binds no tighter than any operator, the reading of an expression is the meant
phrase exactly if the expression is guarded. -/
theorem reading_eq_phrase_iff (loose : ∀ operator : Operator, negation ≤ operator.asInfix.level) :
    ∀ (e : Expr) (index : Nat), e.reading negation index = e.phrase index ↔ e.guarded = true
  | column reference, index => by simp [reading, phrase, guarded]
  | literal value, index => by simp [reading, phrase, guarded]
  | binary left operator right, index => by
      simp only [reading, phrase, guarded, Phrase.group.injEq, Bool.and_eq_true, Bool.not_eq_true']
      rw [under_reading_eq_iff (loose operator) fun _ => operator.not_ne_between,
        Operator.between_eq_between, reading_eq_phrase_iff loose left,
        reading_eq_phrase_iff loose right, and_assoc]
  | ofList left operator values, index => by
      simp only [reading, phrase, guarded, Phrase.group.injEq, Bool.and_eq_true, Bool.not_eq_true']
      rw [under_reading_eq_iff (loose operator) fun _ => operator.not_ne_among,
        Operator.among_eq_among, reading_eq_phrase_iff loose left]
      simp
  | ofTruth left operator keyword, index => by
      simp only [reading, phrase, guarded, Phrase.group.injEq, Bool.and_eq_true, Bool.not_eq_true']
      rw [under_reading_eq_iff (loose operator) fun _ => operator.not_ne_between,
        Operator.between_eq_between, reading_eq_phrase_iff loose left]
      simp
  | junction kind members, index => by
      rw [reading, phrase, guarded, kind.joined_eq_joined (length_readingsOfAll members index),
        readingsOfAll_eq_phrasesOfAll_iff loose members]
  | not inner, index => by
      simp [reading, phrase, guarded, reading_eq_phrase_iff loose inner]

theorem readingsOfAll_eq_phrasesOfAll_iff
    (loose : ∀ operator : Operator, negation ≤ operator.asInfix.level) :
    ∀ (members : List Expr) (index : Nat),
      readingsOfAll negation index members = phrasesOfAll index members ↔
        allGuarded members = true
  | [], index => by simp [readingsOfAll, phrasesOfAll, allGuarded]
  | first :: rest, index => by
      simp [readingsOfAll, phrasesOfAll, allGuarded, reading_eq_phrase_iff loose first,
        readingsOfAll_eq_phrasesOfAll_iff loose rest]

end

mutual

/-- **A `NOT` that binds tighter than every operator leaves each operator its operands.** -/
theorem reading_beyond :
    ∀ (e : Expr) (index : Nat), e.reading Infix.beyond index = e.phrase index
  | column reference, index => rfl
  | literal value, index => rfl
  | binary left operator right, index => by
      rw [reading, phrase, reading_beyond left, reading_beyond right, under_beyond]
  | ofList left operator values, index => by
      rw [reading, phrase, reading_beyond left, under_beyond]
  | ofTruth left operator keyword, index => by
      rw [reading, phrase, reading_beyond left, under_beyond]
  | junction kind members, index => by
      rw [reading, phrase, readingsOfAll_beyond members]
  | not inner, index => by rw [reading, phrase, reading_beyond inner]

theorem readingsOfAll_beyond :
    ∀ (members : List Expr) (index : Nat),
      readingsOfAll Infix.beyond index members = phrasesOfAll index members
  | [], index => rfl
  | first :: rest, index => by
      rw [readingsOfAll, phrasesOfAll, reading_beyond first, readingsOfAll_beyond rest]

end

/-! ## Whole expressions -/

/-- **A rendered expression is read with the operands that it has if and only if it is
guarded.** Its text has the tokens of the meant phrase in any case. -/
theorem operands_iff_guarded {dialect : Dialect} (standard : dialect.IsStandard) {e : Expr}
    {compiled : Compiled} (rendered : e.compile dialect = .ok compiled) :
    Token.ofText? compiled.text = some (e.phrase 0).tokens ∧
      (Phrase.ofText? Infix.notLevel compiled.text = some (e.phrase 0) ↔
        e.guarded = true) := by
  constructor
  · rw [tokens_text standard rendered Infix.beyond, reading_beyond]
  · rw [ofText?_text standard rendered (by decide), Option.some_inj,
      reading_eq_phrase_iff notLevel_le]

end Expr

/-- A column of numbers, `"s"."level"`. -/
def Column.sampleLevel : Column :=
  ⟨⟨"level", .integer, false, false, false, false, none, none⟩, "s"⟩

namespace Expr

/-- A column equals its own negation: `("s"."level" = NOT ("s"."level"))`. -/
def equalNegation : Expr := binary (column .sampleLevel) .eq (not (column .sampleLevel))

/-- A comparison with a negation on its right is read as it is meant. -/
theorem operands_of_equalNegation :
    ∃ compiled, equalNegation.compile .sqlite = .ok compiled ∧
      Phrase.ofText? Infix.notLevel compiled.text = some (equalNegation.phrase 0) :=
  ⟨_, rfl, (operands_iff_guarded Dialect.sqlite_isStandard
    (rfl : equalNegation.compile .sqlite = _)).2.mpr rfl⟩

/-- The negation of a column equals one: `(NOT ("s"."level") = ?)`. -/
def negatedEquality : Expr := binary (not (column .sampleLevel)) .eq (literal (.integer 1))

/-- A comparison with a negation on its left is read as the negation of a comparison. -/
theorem negatedEquality_misread :
    ∃ compiled, negatedEquality.compile .sqlite = .ok compiled ∧
      Phrase.ofText? Infix.notLevel compiled.text =
        some (.group (.not (.binary (.compare .eq) (.group (.column "s" "level"))
          (.placeholder 0)))) ∧
      Phrase.ofText? Infix.notLevel compiled.text ≠ some (negatedEquality.phrase 0) := by
  have rendered : negatedEquality.compile .sqlite = .ok _ := rfl
  refine ⟨_, rendered, ?_, ?_⟩
  · rw [ofText?_text Dialect.sqlite_isStandard rendered (by decide)]
    rfl
  · rw [ofText?_text Dialect.sqlite_isStandard rendered (by decide), Ne, Option.some_inj,
      reading_eq_phrase_iff notLevel_le]
    decide

end Expr

end TypedSql
