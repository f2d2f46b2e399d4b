import TypedSql.Sql.Phrase

/-!
# Phrases are read back from their tokens

`Phrase.tokens` writes a phrase down again. What is written is read as the same phrase only
where precedence allows it, and `Phrase.Fits` says where that is. An operator fits a place
that asks for operators at least as tight. Its left operand is at least as tight, its right
operand is tighter, and nothing at the end of its left operand would take the operator for
itself: an open negation does so with every operator that binds as tightly as `NOT`.
`Phrase.hold` is the level from which on a phrase takes an operator that follows it.

The main statement, `Phrase.readPhrase_tokens`, says that the reader comes through the tokens
of a phrase that fits with that phrase in hand, whatever follows that the phrase does not take.
A phrase that fits is therefore the phrase of its tokens (`Phrase.read_tokens`). Both hold for
a `NOT` of any level.
-/

set_option autoImplicit false

namespace TypedSql.Sql

/-! ## The tokens of operators -/

/-- The symbol of a comparison. -/
def Comparison.symbol : Comparison → String
  | eq => "="
  | notEq => "<>"
  | lt => "<"
  | ltEq => "<="
  | gt => ">"
  | gtEq => ">="

namespace Infix

/-- The tokens of an operator. -/
def tokens : Infix → List Token
  | or => [.word "OR"]
  | and => [.word "AND"]
  | compare comparison => [.mark comparison.symbol]
  | is false => [.word "IS"]
  | is true => [.word "IS", .word "NOT"]
  | like false => [.word "LIKE"]
  | like true => [.word "NOT", .word "LIKE"]
  | isIn false => [.word "IN"]
  | isIn true => [.word "NOT", .word "IN"]

/-- A level that no operator reaches. -/
def beyond : Nat := 6

theorem level_lt_beyond (operator : Infix) : operator.level < beyond := by
  cases operator with
  | compare comparison => cases comparison <;> decide
  | _ => simp [level, beyond]

/-- The words of operators are spelled in capitals. -/
theorem toUpper_operator :
    ∀ letters ∈ ["OR", "AND", "IS", "NOT", "LIKE", "IN"], letters.toUpper = letters := by
  decide +kernel

theorem read?_is {rest : List Token} (apart : keywords? ["NOT"] rest = none) :
    read? (.word "IS" :: rest) = some (is false, rest) := by
  simp [read?, wordOperators, keywords?, Token.isKeyword, toUpper_operator, apart]

/-- **An operator is read back from its tokens.** Only `IS` looks further: before `NOT` it
would be another operator. -/
theorem read?_tokens (operator : Infix) {rest : List Token}
    (apart : operator = is false → keywords? ["NOT"] rest = none) :
    read? (operator.tokens ++ rest) = some (operator, rest) := by
  rcases operator with _ | _ | comparison | (_ | _) | (_ | _) | (_ | _)
  case compare => cases comparison <;> rfl
  case is.false => exact read?_is (apart rfl)
  all_goals simp [tokens, read?, wordOperators, keywords?, Token.isKeyword, toUpper_operator]

end Infix

/-- No operator at the start of tokens binds as tightly as a level. -/
def Stops (level : Nat) (tokens : List Token) : Prop :=
  ∀ operator rest, Infix.read? tokens = some (operator, rest) → operator.level < level

namespace Stops

theorem of_read?_eq_none {level : Nat} {tokens : List Token}
    (none : Infix.read? tokens = none) : Stops level tokens := by
  intro operator rest read
  rw [none] at read
  cases read

theorem nil (level : Nat) : Stops level [] := of_read?_eq_none rfl

theorem closing (level : Nat) (rest : List Token) : Stops level (.mark ")" :: rest) :=
  of_read?_eq_none rfl

/-- The operator at the start of tokens decides what they stop. -/
theorem of_read?_eq_some {level : Nat} {operator : Infix} {tokens rest : List Token}
    (found : Infix.read? tokens = some (operator, rest)) (looser : operator.level < level) :
    Stops level tokens := by
  intro other after read
  rw [found] at read
  cases read
  exact looser

theorem mono {level level' : Nat} {tokens : List Token} (stops : Stops level tokens)
    (le : level ≤ level') : Stops level' tokens :=
  fun operator rest read => Nat.lt_of_lt_of_le (stops operator rest read) le

end Stops

namespace Phrase

/-! ## The tokens of phrases -/

mutual

/-- The tokens of a phrase. -/
def tokens : Phrase → List Token
  | column qualifier name => [.identifier qualifier, .mark ".", .identifier name]
  | placeholder index => [.placeholder index]
  | word letters => [.word letters]
  | group inner => .mark "(" :: (inner.tokens ++ [.mark ")"])
  | not inner => .word "NOT" :: inner.tokens
  | binary operator left right => left.tokens ++ (operator.tokens ++ right.tokens)
  | isIn negated left members =>
      left.tokens ++ ((Infix.isIn negated).tokens ++
        (.mark "(" :: (tokensOfAll members ++ [.mark ")"])))

/-- The tokens of phrases with commas between them. -/
def tokensOfAll : List Phrase → List Token
  | [] => []
  | first :: rest => first.tokens ++ tokensOfRest rest

/-- The tokens of phrases with a comma before each. -/
def tokensOfRest : List Phrase → List Token
  | [] => []
  | first :: rest => .mark "," :: (first.tokens ++ tokensOfRest rest)

end

/-- The number of operators from the outermost one down the left operands. -/
def spine : Phrase → Nat
  | binary _ left _ => left.spine + 1
  | isIn _ left _ => left.spine + 1
  | _ => 0

/-- The level from which on a phrase takes the operator that follows it, when a prefix `NOT`
binds as tightly as `negation`. -/
def hold (negation : Nat) : Phrase → Nat
  | not inner => min negation (inner.hold negation)
  | binary operator _ right => min (operator.level + 1) (right.hold negation)
  | _ => Infix.beyond

/-- A phrase that fits a place where operators bind at least as tightly as a level. -/
inductive Fits (negation : Nat) : Nat → Phrase → Prop where
  | column (level : Nat) (qualifier name : String) :
      Fits negation level (.column qualifier name)
  | placeholder (level index : Nat) : Fits negation level (.placeholder index)
  | word (level : Nat) {letters : String} (operand : letters.toUpper ≠ "NOT") :
      Fits negation level (.word letters)
  | group (level : Nat) {inner : Phrase} (inside : Fits negation 0 inner) :
      Fits negation level (.group inner)
  | not (level : Nat) {inner : Phrase} (inside : Fits negation negation inner) :
      Fits negation level (.not inner)
  | binary {level : Nat} {operator : Infix} {left right : Phrase}
      (single : ∀ negated, operator ≠ .isIn negated)
      (apart : operator = .is false →
        ∀ rest, keywords? ["NOT"] (right.tokens ++ rest) = none)
      (binds : level ≤ operator.level) (before : Fits negation operator.level left)
      (free : operator.level < left.hold negation)
      (after : Fits negation (operator.level + 1) right) :
      Fits negation level (.binary operator left right)
  | isIn {level : Nat} {negated : Bool} {left : Phrase} {members : List Phrase}
      (binds : level ≤ (Infix.isIn negated).level)
      (before : Fits negation (Infix.isIn negated).level left)
      (free : (Infix.isIn negated).level < left.hold negation)
      (inside : ∀ member ∈ members, Fits negation 0 member) :
      Fits negation level (.isIn negated left members)

/-- A phrase fits where operators may be looser. -/
theorem Fits.mono {negation level place : Nat} {phrase : Phrase}
    (fits : Fits negation level phrase) (le : place ≤ level) : Fits negation place phrase := by
  cases fits with
  | column _ qualifier name => exact .column place qualifier name
  | placeholder _ index => exact .placeholder place index
  | word _ operand => exact .word place operand
  | group _ inside => exact .group place inside
  | not _ inside => exact .not place inside
  | binary single apart binds before free after =>
      exact .binary single apart (Nat.le_trans le binds) before free after
  | isIn binds before free inside => exact .isIn (Nat.le_trans le binds) before free inside

/-! ## The first token and the number of tokens -/

/-- A phrase has a first token, and it closes no parenthesis. -/
theorem tokens_eq_cons : ∀ phrase : Phrase,
    ∃ first others, phrase.tokens = first :: others ∧ first ≠ .mark ")"
  | column qualifier name => ⟨.identifier qualifier, _, rfl, by simp⟩
  | placeholder index => ⟨.placeholder index, _, rfl, by simp⟩
  | word letters => ⟨.word letters, _, rfl, by simp⟩
  | group inner => ⟨.mark "(", _, rfl, by simp⟩
  | not inner => ⟨.word "NOT", _, rfl, by simp⟩
  | binary operator left right => by
      obtain ⟨first, others, same, opens⟩ := tokens_eq_cons left
      exact ⟨first, _, by rw [tokens, same, List.cons_append], opens⟩
  | isIn negated left members => by
      obtain ⟨first, others, same, opens⟩ := tokens_eq_cons left
      exact ⟨first, _, by rw [tokens, same, List.cons_append], opens⟩

/-- The reader takes two steps into every phrase. -/
theorem exists_steps (phrase : Phrase) {steps : Nat}
    (enough : 2 * phrase.tokens.length ≤ steps) : ∃ remaining, steps = remaining + 2 := by
  obtain ⟨first, others, same, _⟩ := tokens_eq_cons phrase
  rw [same, List.length_cons] at enough
  exact ⟨steps - 2, by omega⟩

theorem spine_lt_length : ∀ phrase : Phrase, phrase.spine < phrase.tokens.length
  | column qualifier name => by simp [tokens, spine]
  | placeholder index => by simp [tokens, spine]
  | word letters => by simp [tokens, spine]
  | group inner => by simp [tokens, spine]
  | not inner => by simp [tokens, spine]
  | binary operator left right => by
      have before := spine_lt_length left
      obtain ⟨first, others, same, _⟩ := tokens_eq_cons right
      simp only [tokens, spine, same, List.length_append, List.length_cons]
      omega
  | isIn negated left members => by
      have before := spine_lt_length left
      simp only [tokens, spine, List.length_append, List.length_cons]
      omega

/-! ## One step of the reader -/

variable {negation steps level : Nat} {left : Phrase} {tokens' rest : List Token}

theorem extend_stops (stops : Stops level rest) :
    extend negation steps level left rest = .ok (left, rest) := by
  cases steps with
  | zero => rw [extend]
  | succ steps =>
      rw [extend]
      cases read : Infix.read? rest with
      | none => rfl
      | some found =>
          obtain ⟨operator, after⟩ := found
          simp [stops operator after read]

/-- An operand is read and then extended. -/
theorem readPhrase_operand
    (read : readOperand negation steps tokens' = .ok (left, rest)) :
    readPhrase negation (steps + 1) level tokens' = extend negation steps level left rest := by
  rw [readPhrase, read]
  rfl

theorem extend_binary {operator : Infix} {right : Phrase} {after : List Token}
    (single : ∀ negated, operator ≠ .isIn negated)
    (found : Infix.read? tokens' = some (operator, after)) (binds : level ≤ operator.level)
    (read : readPhrase negation steps (operator.level + 1) after = .ok (right, rest)) :
    extend negation (steps + 1) level left tokens' =
      extend negation steps level (.binary operator left right) rest := by
  rw [extend, found]
  simp only [Nat.not_lt.mpr binds, if_false]
  cases operator with
  | isIn negated => exact absurd rfl (single negated)
  | _ =>
      simp only [read]
      rfl

theorem extend_isIn {negated : Bool} {members : List Phrase} {after : List Token}
    (found : Infix.read? tokens' = some (.isIn negated, .mark "(" :: after))
    (binds : level ≤ (Infix.isIn negated).level)
    (read : readMembers negation steps after = .ok (members, rest)) :
    extend negation (steps + 1) level left tokens' =
      extend negation steps level (.isIn negated left members) rest := by
  rw [extend, found]
  simp only [Nat.not_lt.mpr binds, if_false, expect, if_true]
  show (readMembers negation steps after >>= _) = _
  rw [read]
  rfl

/-- The last member of a list is read with the parenthesis that closes the list. -/
theorem readMembers_last {first : Phrase} (opens : ∀ others, tokens' ≠ .mark ")" :: others)
    (read : readPhrase negation steps 0 tokens' = .ok (first, .mark ")" :: rest)) :
    readMembers negation (steps + 1) tokens' = .ok ([first], rest) := by
  rw [readMembers.eq_3 _ _ _ opens, read]
  rfl

/-- A member before a comma is read with the members behind it. -/
theorem readMembers_comma {first : Phrase} {others : List Phrase} {after : List Token}
    (opens : ∀ others, tokens' ≠ .mark ")" :: others)
    (read : readPhrase negation steps 0 tokens' = .ok (first, .mark "," :: after))
    (readOthers : readMembers negation steps after = .ok (others, rest)) :
    readMembers negation (steps + 1) tokens' = .ok (first :: others, rest) := by
  rw [readMembers.eq_3 _ _ _ opens, read]
  show (readMembers negation steps after >>= _) = _
  rw [readOthers]
  rfl

/-- Members are read up to the parenthesis that closes their list. -/
theorem readMembers_tokens {members : List Phrase}
    (each : ∀ member ∈ members, ∀ {steps rest}, 2 * member.tokens.length ≤ steps →
      Infix.read? rest = none →
        readPhrase negation steps 0 (member.tokens ++ rest) = .ok (member, rest))
    (enough : 2 * (tokensOfAll members).length + 1 ≤ steps) :
    readMembers negation steps (tokensOfAll members ++ .mark ")" :: rest) =
      .ok (members, rest) := by
  induction members generalizing steps with
  | nil =>
      obtain ⟨steps, rfl⟩ : ∃ n, steps = n + 1 := ⟨steps - 1, by omega⟩
      rfl
  | cons first others ih =>
      obtain ⟨readFirst, eachOther⟩ := List.forall_mem_cons.mp each
      obtain ⟨steps, rfl⟩ : ∃ n, steps = n + 1 := ⟨steps - 1, by omega⟩
      simp only [tokensOfAll, List.length_append] at enough
      have opens (after : List Token) :
          ∀ others, first.tokens ++ after ≠ .mark ")" :: others := by
        obtain ⟨head, tail, same, different⟩ := first.tokens_eq_cons
        intro others equal
        rw [same] at equal
        exact different (List.cons.inj equal).1
      rw [tokensOfAll, List.append_assoc]
      cases others with
      | nil => exact readMembers_last (opens _) (readFirst (by omega) rfl)
      | cons second more =>
          simp only [tokensOfRest, List.length_cons] at enough
          exact readMembers_comma (opens _) (readFirst (by omega) rfl)
            (ih eachOther (by rw [tokensOfAll]; omega))

/-! ## Reading a phrase back -/

/-- **The reader comes through the tokens of a phrase that fits with that phrase in hand**, and
goes on to the operators that follow. -/
theorem readPhrase_tokens {phrase : Phrase} (fits : Fits negation level phrase) {place : Nat}
    (le : place ≤ level) (enough : 2 * phrase.tokens.length ≤ steps)
    (stops : Stops (phrase.hold negation) rest) :
    readPhrase negation steps place (phrase.tokens ++ rest) =
      extend negation (steps - phrase.spine - 1) place phrase rest := by
  -- The place is generalized because a left operand is read in the place of its operator,
  -- which may be looser than the level that the operand fits.
  induction fits generalizing steps rest place with
  | column level qualifier name =>
      obtain ⟨steps, rfl⟩ := exists_steps _ enough
      exact readPhrase_operand rfl
  | placeholder level index =>
      obtain ⟨steps, rfl⟩ := exists_steps _ enough
      exact readPhrase_operand rfl
  | word level operand =>
      obtain ⟨steps, rfl⟩ := exists_steps _ enough
      refine readPhrase_operand ?_
      simp [tokens, readOperand, operand]
  | @group level inner inside ih =>
      obtain ⟨steps, rfl⟩ := exists_steps _ enough
      simp only [tokens, List.length_cons, List.length_append, List.length_nil] at enough
      refine readPhrase_operand ?_
      have read : readPhrase negation steps 0 (inner.tokens ++ .mark ")" :: rest) =
          .ok (inner, .mark ")" :: rest) :=
        (ih (Nat.le_refl 0) (by omega) (.closing _ rest)).trans (extend_stops (.closing 0 rest))
      simp only [tokens, List.cons_append, List.append_assoc, List.nil_append, readOperand]
      rw [read]
      rfl
  | @not level inner inside ih =>
      obtain ⟨steps, rfl⟩ := exists_steps _ enough
      simp only [tokens, List.length_cons] at enough
      refine readPhrase_operand ?_
      have read : readPhrase negation steps negation (inner.tokens ++ rest) = .ok (inner, rest) :=
        (ih (Nat.le_refl negation) (by omega) (stops.mono (Nat.min_le_right _ _))).trans
          (extend_stops (stops.mono (Nat.min_le_left _ _)))
      have negates : "NOT".toUpper = "NOT" := by decide +kernel
      simp only [tokens, List.cons_append, readOperand, negates, if_true]
      rw [read]
      rfl
  | @binary level operator left right single apart binds before free after ihBefore ihAfter =>
      simp only [tokens, List.length_append] at enough
      have short := left.spine_lt_length
      have found : Infix.read? (operator.tokens ++ (right.tokens ++ rest)) =
          some (operator, right.tokens ++ rest) :=
        Infix.read?_tokens operator fun same => apart same rest
      have leftStops : Stops (left.hold negation) (operator.tokens ++ (right.tokens ++ rest)) :=
        .of_read?_eq_some found free
      obtain ⟨n, remaining⟩ : ∃ n, steps - left.spine - 1 = n + 1 :=
        ⟨steps - left.spine - 2, by omega⟩
      have readRight : readPhrase negation n (operator.level + 1) (right.tokens ++ rest) =
          .ok (right, rest) :=
        (ihAfter (Nat.le_refl _) (by omega) (stops.mono (Nat.min_le_right _ _))).trans
          (extend_stops (stops.mono (Nat.min_le_left _ _)))
      rw [tokens, List.append_assoc, List.append_assoc,
        ihBefore (Nat.le_trans le binds) (by omega) leftStops, remaining,
        extend_binary single found (Nat.le_trans le binds) readRight]
      congr 1
      simp only [spine]
      omega
  | @isIn level negated left members binds before free inside ihBefore ihInside =>
      simp only [tokens, List.length_append, List.length_cons, List.length_nil] at enough
      have short := left.spine_lt_length
      have found : Infix.read? ((Infix.isIn negated).tokens ++
          (.mark "(" :: (tokensOfAll members ++ .mark ")" :: rest))) =
            some (.isIn negated, .mark "(" :: (tokensOfAll members ++ .mark ")" :: rest)) :=
        Infix.read?_tokens (.isIn negated) nofun
      have leftStops : Stops (left.hold negation) ((Infix.isIn negated).tokens ++
          (.mark "(" :: (tokensOfAll members ++ .mark ")" :: rest))) :=
        .of_read?_eq_some found free
      obtain ⟨n, remaining⟩ : ∃ n, steps - left.spine - 1 = n + 1 :=
        ⟨steps - left.spine - 2, by omega⟩
      have readInside : readMembers negation n (tokensOfAll members ++ .mark ")" :: rest) =
          .ok (members, rest) := by
        refine readMembers_tokens (fun member inList _ _ enough none => ?_) (by omega)
        exact (ihInside member inList (Nat.le_refl 0) enough (.of_read?_eq_none none)).trans
          (extend_stops (.of_read?_eq_none none))
      simp only [tokens, List.append_assoc, List.cons_append, List.nil_append]
      rw [ihBefore (Nat.le_trans le binds) (by omega) leftStops, remaining,
        extend_isIn found (Nat.le_trans le binds) readInside]
      congr 1
      simp only [spine]
      omega

/-- **A phrase that fits anywhere is the phrase of its tokens.** -/
theorem read_tokens {phrase : Phrase} (fits : Fits negation 0 phrase) :
    read negation phrase.tokens = .ok (phrase, []) := by
  have through : readPhrase negation (3 * phrase.tokens.length + 3) 0 (phrase.tokens ++ []) = _ :=
    readPhrase_tokens fits (Nat.le_refl 0) (by omega) (.nil _)
  rw [read, ← List.append_nil phrase.tokens]
  simpa using through.trans (extend_stops (.nil 0))

end Phrase

end TypedSql.Sql
