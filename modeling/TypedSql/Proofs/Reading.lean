import TypedSql.Proofs.Phrases
import TypedSql.Proofs.Placeholders
import TypedSql.Proofs.Tokens

/-!
# How the text of an expression is read

`Expr.phrase` is the phrase that an expression is meant to be: every operator between the
phrases of its own operands, in the parentheses that the text has. `Expr.reading` is the phrase
that a reader makes of the text when a prefix `NOT` binds as tightly as a given level. They
differ in one place. A negation is the only expression that is written without parentheses
around it, and as the left operand of an operator that binds as tightly as `NOT` it takes the
operator for itself (`Phrase.under`).

Both phrases have the same tokens, and these are the tokens of the text
(`Expr.spells_written`). The main statement, `Expr.ofText?_text`, is that the whole text of a
rendered expression is read as `Expr.reading`.
-/

set_option autoImplicit false

namespace TypedSql

open Sql

/-! ## Phrases of expressions -/

/-- An operator as a reader knows it. -/
def Operator.asInfix : Operator → Infix
  | eq => .compare .eq
  | notEq => .compare .notEq
  | lt => .compare .lt
  | ltEq => .compare .ltEq
  | gt => .compare .gt
  | gtEq => .compare .gtEq
  | like => .like false
  | notLike => .like true
  | isIn => .isIn false
  | notIn => .isIn true
  | is => .is false
  | isNot => .is true

/-- A membership of a phrase among others. -/
def Operator.among (operator : Operator) (members : List Phrase) (left : Phrase) : Phrase :=
  .isIn (operator = .notIn) left members

/-- An operator between two phrases. The right side of a membership is its only member. -/
def Operator.between (operator : Operator) (right left : Phrase) : Phrase :=
  if operator.isMembership then operator.among [right] left
  else .binary operator.asInfix left right

/-- The word between joined conditions, as a reader knows it. -/
def Junction.asInfix : Junction → Infix
  | and => .and
  | or => .or

/-- Phrases joined from the left in parentheses, or the truth value of a junction of none. -/
def Junction.joined (kind : Junction) : List Phrase → Phrase
  | [] => .word kind.neutral.symbol
  | first :: rest => .group (rest.foldl (.binary kind.asInfix) first)

/-- The phrase of a literal. -/
def Value.phrase (index : Nat) : Value → Phrase
  | null => .word TruthKeyword.null.symbol
  | bool true => .word TruthKeyword.true.symbol
  | bool false => .word TruthKeyword.false.symbol
  | _ => .placeholder index

/-- The phrases of a list of literals. -/
def Value.phrases : Nat → List Value → List Phrase
  | _, [] => []
  | index, first :: rest =>
      first.phrase index :: phrases (index + first.bound?.toList.length) rest

namespace Expr

mutual

/-- The phrase that an expression is meant to be, with placeholders from a number on. -/
def phrase (index : Nat) : Expr → Phrase
  | column reference => .column reference.owner reference.sqlName
  | literal value => value.phrase index
  | binary left operator right =>
      .group (operator.between (right.phrase (index + left.bound.length)) (left.phrase index))
  | ofList left operator values =>
      .group (operator.among (Value.phrases (index + left.bound.length) values)
        (left.phrase index))
  | ofTruth left operator keyword =>
      .group (operator.between (.word keyword.symbol) (left.phrase index))
  | junction kind members => kind.joined (phrasesOfAll index members)
  | not inner => .not (.group (inner.phrase index))

/-- The phrases of a list of expressions. -/
def phrasesOfAll (index : Nat) : List Expr → List Phrase
  | [] => []
  | first :: rest => first.phrase index :: phrasesOfAll (index + first.bound.length) rest

end

end Expr

/-- A phrase with an operator behind it. An open negation takes an operator that binds at least
as tightly as itself into its own operand. -/
def Sql.Phrase.under (negation level : Nat) (build : Phrase → Phrase) : Phrase → Phrase
  | not inner => if negation ≤ level then not (build inner) else build (not inner)
  | left => build left

namespace Expr

mutual

/-- The phrase that a reader makes of an expression when `NOT` binds as tightly as
`negation`. -/
def reading (negation index : Nat) : Expr → Phrase
  | column reference => .column reference.owner reference.sqlName
  | literal value => value.phrase index
  | binary left operator right =>
      .group ((left.reading negation index).under negation operator.asInfix.level
        (operator.between (right.reading negation (index + left.bound.length))))
  | ofList left operator values =>
      .group ((left.reading negation index).under negation operator.asInfix.level
        (operator.among (Value.phrases (index + left.bound.length) values)))
  | ofTruth left operator keyword =>
      .group ((left.reading negation index).under negation operator.asInfix.level
        (operator.between (.word keyword.symbol)))
  | junction kind members => kind.joined (readingsOfAll negation index members)
  | not inner => .not (.group (inner.reading negation index))

/-- The phrases that a reader makes of a list of expressions. -/
def readingsOfAll (negation index : Nat) : List Expr → List Phrase
  | [] => []
  | first :: rest =>
      first.reading negation index :: readingsOfAll negation (index + first.bound.length) rest

end

end Expr

/-! ## The tokens of a reading -/

/-- The tokens of an operator and of what stands on its right. A membership puts it in
parentheses. -/
def Operator.tokensAfter (operator : Operator) (right : List Token) : List Token :=
  if operator.isMembership then operator.asInfix.tokens ++ .mark "(" :: (right ++ [.mark ")"])
  else operator.asInfix.tokens ++ right

theorem Operator.asInfix_of_isMembership {operator : Operator}
    (membership : operator.isMembership = true) :
    operator.asInfix = .isIn (operator = .notIn) := by
  cases operator <;> first | rfl | cases membership

theorem Operator.tokens_among {operator : Operator} (membership : operator.isMembership = true)
    (members : List Phrase) (left : Phrase) :
    (operator.among members left).tokens =
      left.tokens ++ operator.tokensAfter (Phrase.tokensOfAll members) := by
  rw [among, Phrase.tokens, tokensAfter, asInfix_of_isMembership membership, membership, if_pos rfl]

theorem Operator.tokens_between (operator : Operator) (right left : Phrase) :
    (operator.between right left).tokens =
      left.tokens ++ operator.tokensAfter right.tokens := by
  rw [between]
  split
  · next membership =>
      rw [tokens_among membership, Phrase.tokensOfAll, Phrase.tokensOfRest, List.append_nil]
  · next other => rw [Phrase.tokens, tokensAfter, if_neg other]

theorem Sql.Phrase.tokens_under {build : Phrase → Phrase} {behind : List Token}
    (tokens : ∀ left, (build left).tokens = left.tokens ++ behind) (negation level : Nat)
    (left : Phrase) : (left.under negation level build).tokens = left.tokens ++ behind := by
  cases left with
  | not inner =>
      rw [under]
      split
      · rw [Phrase.tokens, tokens, Phrase.tokens, List.cons_append]
      · exact tokens _
  | _ => exact tokens _

theorem Junction.tokens_foldl (kind : Junction) (first : Phrase) (rest : List Phrase) :
    (rest.foldl (.binary kind.asInfix) first).tokens =
      first.tokens ++ rest.flatMap fun member => kind.asInfix.tokens ++ member.tokens := by
  induction rest generalizing first with
  | nil => simp
  | cons second others ih => simp [ih, Phrase.tokens]

/-! ## The tokens of a text -/

/-- The characters of a list of fragments. -/
def Fragment.charsOfAll (dialect : Dialect) (fragments : List Fragment) : List Char :=
  fragments.flatMap (·.chars dialect)

section Texts

open Token Fragment

variable {dialect : Dialect} {negation index : Nat} {rest : List Char} {tokens : List Token}

@[simp] theorem Fragment.charsOfAll_nil : charsOfAll dialect [] = [] := rfl

@[simp] theorem Fragment.charsOfAll_cons (first : Fragment) (others : List Fragment) :
    charsOfAll dialect (first :: others) = first.chars dialect ++ charsOfAll dialect others := rfl

@[simp] theorem Fragment.charsOfAll_append (first second : List Fragment) :
    charsOfAll dialect (first ++ second) =
      charsOfAll dialect first ++ charsOfAll dialect second := by
  rw [charsOfAll, List.flatMap_append]
  rfl

@[simp] theorem Fragment.chars_word (text : String) : (word text).chars dialect = text.toList :=
  rfl

theorem readsAs_spaced {text : String} (isWord : isWord text = true)
    (reads : ReadsAs index rest tokens) :
    ReadsAs index (text.toList ++ ' ' :: rest) (.word text :: tokens) :=
  .letters isWord (ends_cons (by decide) rest) reads.blank

/-- An operator before a blank is read as its tokens. -/
theorem Operator.readsAs_symbol (operator : Operator) (reads : ReadsAs index rest tokens) :
    ReadsAs index (operator.symbol.toList ++ ' ' :: rest)
      (operator.asInfix.tokens ++ tokens) := by
  have twoWords (one other : String) (isOne : isWord one = true) (isOther : isWord other = true) :
      ReadsAs index ((one.toList ++ ' ' :: other.toList) ++ ' ' :: rest)
        (.word one :: .word other :: tokens) := by
    rw [List.append_assoc, List.cons_append]
    exact readsAs_spaced isOne (readsAs_spaced isOther reads)
  cases operator with
  | eq => exact .symbol (by decide) reads.blank
  | notEq => exact .step rfl rfl (by simp) (by simpa using reads.blank)
  | lt => exact .step rfl rfl (by simp) (by simpa using reads.blank)
  | ltEq => exact .step rfl rfl (by simp) (by simpa using reads.blank)
  | gt => exact .step rfl rfl (by simp) (by simpa using reads.blank)
  | gtEq => exact .step rfl rfl (by simp) (by simpa using reads.blank)
  | like => exact readsAs_spaced rfl reads
  | notLike => exact twoWords "NOT" "LIKE" rfl rfl
  | isIn => exact readsAs_spaced rfl reads
  | notIn => exact twoWords "NOT" "IN" rfl rfl
  | is => exact readsAs_spaced rfl reads
  | isNot => exact twoWords "IS" "NOT" rfl rfl

/-- An operator between two pieces, in parentheses. -/
theorem Operator.spells_between (operator : Operator) {count count' : Nat}
    {before after : List Char} {left right : List Token}
    (first : Spells index count before left) (second : Spells (index + count) count' after right) :
    Spells index (count + count')
      ('(' :: ((before ++ ' ' :: (operator.symbol.toList ++ ' ' :: after)) ++ [')']))
      (.mark "(" :: ((left ++ (operator.asInfix.tokens ++ right)) ++ [.mark ")"])) := by
  have behind : Spells (index + count) count'
      (' ' :: (operator.symbol.toList ++ ' ' :: after)) (operator.asInfix.tokens ++ right) := by
    intro rest tokens ends reads
    simpa using (operator.readsAs_symbol (second ends reads)).blank
  exact (first.append behind fun rest _ => ends_cons (by decide) _).enclosed

/-- An operator between written operands is read between the tokens of its operands. -/
theorem Operator.spells_written (operator : Operator) {before after : List Fragment}
    {count count' : Nat} {left right : List Token}
    (first : Spells index count (charsOfAll dialect before) left)
    (second : Spells (index + count) count' (charsOfAll dialect after) right) :
    Spells index (count + count') (charsOfAll dialect (Expr.writtenBinary operator before after))
      (.mark "(" :: ((left ++ operator.tokensAfter right) ++ [.mark ")"])) := by
  rw [Expr.writtenBinary, tokensAfter]
  split
  · simpa [Operator.infixed] using operator.spells_between first second.enclosed
  · simpa [Operator.infixed] using operator.spells_between first second

theorem TruthKeyword.spells_symbol (keyword : TruthKeyword) (index : Nat) :
    Spells index 0 keyword.symbol.toList [.word keyword.symbol] := by
  intro rest tokens ends reads
  cases keyword <;> exact .letters rfl ends reads

theorem Column.spells_fragments (standard : dialect.IsStandard) (reference : Column)
    (index : Nat) :
    Spells index 0 (charsOfAll dialect reference.fragments)
      (Phrase.column reference.owner reference.sqlName).tokens := by
  intro rest tokens ends reads
  have name := ReadsAs.quoted reference.sqlName ends reads
  have point : ReadsAs index ('.' :: _) (.mark "." :: _) := .symbol (by decide) name
  have owner := ReadsAs.quoted reference.owner (ends_cons (by decide) _) point
  simpa [Column.fragments, chars, Dialect.identifier, standard.quote, Phrase.tokens] using owner

theorem Value.spells_written (standard : dialect.IsStandard) (value : Value) (index : Nat) :
    Spells index value.bound?.toList.length (value.written.chars dialect)
      (value.phrase index).tokens := by
  have placeholder : Spells index 1 (dialect.placeholder.toList) [.placeholder index] := by
    intro rest tokens ends reads
    rw [standard.placeholder]
    exact reads.parameter
  cases value with
  | null => exact TruthKeyword.null.spells_symbol index
  | bool truth =>
      cases truth with
      | true => exact TruthKeyword.true.spells_symbol index
      | false => exact TruthKeyword.false.spells_symbol index
  | _ => exact placeholder

/-! ### Lists -/

theorem Fragment.charsOfAll_separated (separator : String) (first : List Fragment)
    (others : List (List Fragment)) :
    charsOfAll dialect (separated separator (first :: others)) =
      charsOfAll dialect first ++
        others.flatMap fun part => separator.toList ++ charsOfAll dialect part := by
  rw [separated_cons, charsOfAll_append]
  simp [charsOfAll, List.flatMap_assoc]

/-- Each of a list of parts spells one of a list of phrases, one after the other. -/
inductive SpellEach (dialect : Dialect) :
    Nat → Nat → List (List Fragment) → List Phrase → Prop where
  | nil (index : Nat) : SpellEach dialect index 0 [] []
  | cons {index count count' : Nat} {part : List Fragment} {parts : List (List Fragment)}
      {phrase : Phrase} {phrases : List Phrase}
      (first : Spells index count (charsOfAll dialect part) phrase.tokens)
      (others : SpellEach dialect (index + count) count' parts phrases) :
      SpellEach dialect index (count + count') (part :: parts) (phrase :: phrases)

/-- What a separator has to do: end the part before it and be read as tokens of its own. -/
structure Separates (separator : String) (between : List Token) : Prop where
  ends : ∀ {rest : List Char}, Ends (separator.toList ++ rest)
  spells : ∀ {index count characters spelled}, Spells index count characters spelled →
    Spells index count (separator.toList ++ characters) (between ++ spelled)

theorem separates_comma : Separates "," [.mark ","] where
  ends := ends_cons (by decide) _
  spells piece := piece.symbol (by decide)

theorem Junction.separates (kind : Junction) :
    Separates (" " ++ kind.symbol ++ " ") kind.asInfix.tokens where
  ends := by cases kind <;> exact ends_cons (by decide) _
  spells piece := by cases kind <;> exact piece.spaced rfl

section

variable {separator : String} {between : List Token} {count : Nat}
  {parts : List (List Fragment)} {phrases : List Phrase}

theorem Separates.ends_flatMap (separates : Separates separator between)
    (parts : List (List Fragment)) (rest : List Char) (ends : Ends rest) :
    Ends ((parts.flatMap fun part => separator.toList ++ charsOfAll dialect part) ++ rest) := by
  cases parts with
  | nil => exact ends
  | cons first parts => simpa using separates.ends

theorem SpellEach.spells_behind (separates : Separates separator between)
    (each : SpellEach dialect index count parts phrases) :
    Spells index count (parts.flatMap fun part => separator.toList ++ charsOfAll dialect part)
      (phrases.flatMap fun phrase => between ++ phrase.tokens) := by
  induction each with
  | nil index => exact .nil index
  | cons first others ih => exact (separates.spells first).append ih (separates.ends_flatMap _)

/-- Parts between separators are read as phrases between the tokens of the separator. -/
theorem SpellEach.spells_separated (separates : Separates separator between)
    {first : List Fragment} {phrase : Phrase}
    (each : SpellEach dialect index count (first :: parts) (phrase :: phrases)) :
    Spells index count (charsOfAll dialect (separated separator (first :: parts)))
      (phrase.tokens ++ phrases.flatMap fun phrase => between ++ phrase.tokens) := by
  rw [charsOfAll_separated]
  cases each with
  | cons first others =>
      exact first.append (others.spells_behind separates) (separates.ends_flatMap _)

theorem Sql.Phrase.tokensOfRest_eq_flatMap (phrases : List Phrase) :
    tokensOfRest phrases = phrases.flatMap fun phrase => [.mark ","] ++ phrase.tokens := by
  induction phrases with
  | nil => rfl
  | cons first others ih => simp [tokensOfRest, ih]

end

theorem Value.spellEach (standard : dialect.IsStandard) (values : List Value) (index : Nat) :
    SpellEach dialect index (values.filterMap (·.bound?)).length
      (values.map fun value => [value.written]) (Value.phrases index values) := by
  induction values generalizing index with
  | nil => exact .nil index
  | cons first others ih =>
      have count : ((first :: others).filterMap (·.bound?)).length =
          first.bound?.toList.length + (others.filterMap (·.bound?)).length := by
        cases bound : first.bound? <;> simp [bound, Nat.add_comm]
      rw [count]
      exact .cons (by simpa using first.spells_written standard index) (ih _)

/-- Values between commas are read as the members of a list. -/
theorem Value.spells_separated (standard : dialect.IsStandard) (values : List Value)
    (index : Nat) :
    Spells index (values.filterMap (·.bound?)).length
      (charsOfAll dialect (separated "," (values.map fun value => [value.written])))
      (Phrase.tokensOfAll (Value.phrases index values)) := by
  have each := spellEach standard values index
  cases values with
  | nil => exact .nil index
  | cons first others =>
      rw [phrases, Phrase.tokensOfAll, Phrase.tokensOfRest_eq_flatMap]
      exact each.spells_separated separates_comma

/-! ### Expressions -/

mutual

/-- **The characters of an expression spell the tokens of its reading**, however tightly `NOT`
binds. -/
theorem Expr.spells_written (standard : dialect.IsStandard) : ∀ (e : Expr) (index : Nat),
    e.fault? = none →
      Spells index e.bound.length (charsOfAll dialect e.written) (e.reading negation index).tokens
  | .column reference, index, _ => reference.spells_fragments standard index
  | .literal value, index, _ => by
      simpa [written, bound, reading] using value.spells_written standard index
  | .binary left operator right, index, faultless => by
      obtain ⟨_, _, first, second⟩ := fault?_binary_eq_none.mp faultless
      have spelled := operator.spells_written (spells_written standard left index first)
        (spells_written standard right _ second)
      rw [reading, Phrase.tokens, Phrase.tokens_under (operator.tokens_between _), bound,
        List.length_append]
      exact spelled
  | .ofList left operator values, index, faultless => by
      obtain ⟨membership, first⟩ := fault?_ofList_eq_none.mp faultless
      have spelled := operator.spells_written (spells_written standard left index first)
        (Value.spells_separated standard values _)
      rw [reading, Phrase.tokens, Phrase.tokens_under (Operator.tokens_among membership _), bound,
        List.length_append]
      simpa [written, writtenBinary, membership] using spelled
  | .ofTruth left operator keyword, index, faultless => by
      obtain ⟨truthTest, first⟩ := fault?_ofTruth_eq_none.mp faultless
      have symbol : Spells (index + left.bound.length) 0
          (charsOfAll dialect [word keyword.symbol]) [.word keyword.symbol] := by
        simpa using keyword.spells_symbol _
      have spelled := operator.spells_written (spells_written standard left index first) symbol
      have noMembership := Operator.isMembership_of_isTruthTest truthTest
      rw [reading, Phrase.tokens, Phrase.tokens_under (operator.tokens_between _), bound]
      simpa [written, writtenBinary, noMembership, Phrase.tokens] using spelled
  | .junction kind [], index, _ => by
      simpa [written, reading, readingsOfAll, Junction.joined, Phrase.tokens, bound, boundOfAll]
        using kind.neutral.spells_symbol index
  | .junction kind (first :: others), index, faultless => by
      have each := Expr.spellEach standard (first :: others) index faultless
      have inside := (each.spells_separated kind.separates).enclosed
      rw [reading, readingsOfAll, Junction.joined, Phrase.tokens, kind.tokens_foldl, bound]
      simpa [written, writtenOfAll] using inside
  | .not inner, index, faultless => by
      have inside := (spells_written standard inner index faultless).enclosed
      intro rest tokens ends reads
      have negated : ReadsAs index ("NOT".toList ++ ' ' :: _) (.word "NOT" :: _) :=
        readsAs_spaced rfl (inside ends reads)
      simpa [written, reading, Phrase.tokens] using negated

theorem Expr.spellEach (standard : dialect.IsStandard) : ∀ (members : List Expr) (index : Nat),
    Expr.faultOfAll? members = none →
      SpellEach dialect index (Expr.boundOfAll members).length (Expr.writtenOfAll members)
        (Expr.readingsOfAll negation index members)
  | [], index, _ => .nil index
  | first :: others, index, faultless => by
      obtain ⟨ofFirst, ofOthers⟩ := faultOfAll?_cons_eq_none.mp faultless
      rw [Expr.boundOfAll, List.length_append]
      exact .cons (first.spells_written standard index ofFirst)
        (Expr.spellEach standard others _ ofOthers)

end

end Texts

/-! ## Readings fit -/

section Fitting

variable {negation : Nat}

/-- What the readings of expressions are: operands that take no operator behind them, and
negations of parentheses. -/
inductive Sql.Phrase.Standalone (negation : Nat) : Phrase → Prop where
  | closed {phrase : Phrase} (fits : ∀ level, Fits negation level phrase)
      (holds : phrase.hold negation = Infix.beyond) (plain : ∀ inner, phrase ≠ .not inner) :
      Standalone negation phrase
  | negated {inner : Phrase} (inside : Fits negation 0 inner) :
      Standalone negation (.not (.group inner))

namespace Sql.Phrase

theorem Standalone.fits {phrase : Phrase} (standalone : Standalone negation phrase) (level : Nat) :
    Fits negation level phrase := by
  cases standalone with
  | closed fits => exact fits level
  | negated inside => exact .not level (.group negation inside)

theorem standalone_group {inner : Phrase} (inside : Fits negation 0 inner) :
    Standalone negation (.group inner) :=
  .closed (fun level => .group level inside) rfl nofun

theorem standalone_word {letters : String} (operand : letters.toUpper ≠ "NOT") :
    Standalone negation (.word letters) :=
  .closed (fun level => .word level operand) rfl nofun

theorem standalone_placeholder (index : Nat) : Standalone negation (.placeholder index) :=
  .closed (fun level => .placeholder level index) rfl nofun

/-- A phrase that stands alone takes no `AND` and no `OR` behind it. -/
theorem Standalone.lt_hold {phrase : Phrase} (standalone : Standalone negation phrase)
    {level : Nat} (looser : level < negation) (below : level < Infix.beyond) :
    level < phrase.hold negation := by
  cases standalone with
  | closed fits holds => rwa [holds]
  | negated inside => exact Nat.lt_min.mpr ⟨looser, below⟩

/-- An operator behind a phrase that stands alone fits, with the negation inside or outside. -/
theorem Standalone.under {phrase : Phrase} (standalone : Standalone negation phrase)
    {operator : Infix} {build : Phrase → Phrase}
    (fits : ∀ {level left}, level ≤ operator.level → Fits negation operator.level left →
      operator.level < left.hold negation → Fits negation level (build left)) :
    Fits negation 0 (phrase.under negation operator.level build) := by
  have below := operator.level_lt_beyond
  cases standalone with
  | closed fitsAny holds plain =>
      have same : phrase.under negation operator.level build = build phrase := by
        cases phrase with
        | not inner => exact absurd rfl (plain inner)
        | _ => rfl
      rw [same]
      exact fits (Nat.zero_le _) (fitsAny _) (by rwa [holds])
  | @negated inner inside =>
      rw [Phrase.under]
      -- Inside the negation the operator follows a parenthesis; outside, the negation is open.
      split
      · next tight => exact .not 0 (fits tight (.group _ inside) below)
      · next loose =>
          refine fits (Nat.zero_le _) (.not _ (.group _ inside)) ?_
          exact Nat.lt_min.mpr ⟨Nat.lt_of_not_le loose, below⟩

end Sql.Phrase

open Phrase

theorem TruthKeyword.toUpper_symbol_ne (keyword : TruthKeyword) :
    keyword.symbol.toUpper ≠ "NOT" := by
  cases keyword <;> decide +kernel

theorem Value.standalone_phrase (value : Value) (index : Nat) :
    Standalone negation (value.phrase index) := by
  cases value with
  | null => exact standalone_word TruthKeyword.null.toUpper_symbol_ne
  | bool truth =>
      cases truth with
      | true => exact standalone_word TruthKeyword.true.toUpper_symbol_ne
      | false => exact standalone_word TruthKeyword.false.toUpper_symbol_ne
  | _ => exact standalone_placeholder index

theorem Value.standalone_phrases (values : List Value) (index : Nat) :
    ∀ phrase ∈ Value.phrases index values, Standalone negation phrase := by
  induction values generalizing index with
  | nil => exact nofun
  | cons first others ih =>
      exact List.forall_mem_cons.mpr ⟨first.standalone_phrase index, ih _⟩

theorem Operator.fits_among {operator : Operator} (membership : operator.isMembership = true)
    {members : List Phrase} (inside : ∀ member ∈ members, Standalone negation member)
    {level : Nat} {left : Phrase} (binds : level ≤ operator.asInfix.level)
    (before : Fits negation operator.asInfix.level left)
    (free : operator.asInfix.level < left.hold negation) :
    Fits negation level (operator.among members left) := by
  rw [asInfix_of_isMembership membership] at binds before free
  exact .isIn binds before free fun member inList => (inside member inList).fits 0

theorem Operator.fits_between {operator : Operator} {right : Phrase}
    (standalone : Standalone negation right)
    (apart : operator.asInfix = .is false →
      ∀ rest, keywords? ["NOT"] (right.tokens ++ rest) = none)
    {level : Nat} {left : Phrase} (binds : level ≤ operator.asInfix.level)
    (before : Fits negation operator.asInfix.level left)
    (free : operator.asInfix.level < left.hold negation) :
    Fits negation level (operator.between right left) := by
  rw [between]
  split
  · next membership =>
      exact fits_among membership (by simpa using standalone) binds before free
  · next other =>
      have single : ∀ negated, operator.asInfix ≠ .isIn negated := by
        cases operator <;> simp_all [isMembership, asInfix]
      exact .binary single apart binds before free (standalone.fits _)

theorem Junction.level_asInfix_le (kind : Junction) : kind.asInfix.level ≤ Infix.and.level := by
  cases kind <;> decide

/-- A chain of phrases that stand alone fits when `NOT` binds tighter than `AND`. -/
theorem Junction.fits_foldl (kind : Junction) (tight : Infix.and.level < negation)
    {members : List Phrase} (each : ∀ member ∈ members, Standalone negation member)
    {first : Phrase} (fits : Fits negation kind.asInfix.level first)
    (free : kind.asInfix.level < first.hold negation) :
    Fits negation kind.asInfix.level (members.foldl (.binary kind.asInfix) first) := by
  induction members generalizing first with
  | nil => exact fits
  | cons second others ih =>
      obtain ⟨standalone, eachOther⟩ := List.forall_mem_cons.mp each
      have single : ∀ negated, kind.asInfix ≠ .isIn negated := by cases kind <;> nofun
      have apart : kind.asInfix ≠ .is false := by cases kind <;> nofun
      have looser := Nat.lt_of_le_of_lt kind.level_asInfix_le tight
      have holds := standalone.lt_hold looser kind.asInfix.level_lt_beyond
      have joined : Fits negation kind.asInfix.level (.binary kind.asInfix first second) :=
        .binary single (fun same => absurd same apart) (Nat.le_refl _) fits free
          (standalone.fits _)
      exact ih eachOther joined (Nat.lt_min.mpr ⟨Nat.lt_succ_self _, holds⟩)

mutual

/-- **The reading of an expression without a wrong operand fits**, and stands alone. -/
theorem Expr.standalone_reading (tight : Infix.and.level < negation) :
    ∀ (e : Expr) (index : Nat), e.fault? = none → Standalone negation (e.reading negation index)
  | .column reference, index, _ =>
      .closed (fun level => .column level reference.owner reference.sqlName) rfl nofun
  | .literal value, index, _ => value.standalone_phrase index
  | .binary left operator right, index, faultless => by
      obtain ⟨noTruthTest, _, first, second⟩ := fault?_binary_eq_none.mp faultless
      have apart : operator.asInfix ≠ .is false := by
        cases operator <;> simp_all [Operator.asInfix, Operator.isTruthTest]
      have right := standalone_reading tight right (index + left.bound.length) second
      exact standalone_group ((standalone_reading tight left index first).under
        (Operator.fits_between right fun same => absurd same apart))
  | .ofList left operator values, index, faultless => by
      obtain ⟨membership, first⟩ := fault?_ofList_eq_none.mp faultless
      have members : ∀ member ∈ Value.phrases (index + left.bound.length) values,
          Standalone negation member := Value.standalone_phrases values _
      exact standalone_group ((standalone_reading tight left index first).under
        (Operator.fits_among membership members))
  | .ofTruth left operator keyword, index, faultless => by
      obtain ⟨_, first⟩ := fault?_ofTruth_eq_none.mp faultless
      have apart (rest : List Token) :
          keywords? ["NOT"] ((Phrase.word keyword.symbol).tokens ++ rest) = none := by
        simp [Phrase.tokens, keywords?, Token.isKeyword, keyword.toUpper_symbol_ne]
      exact standalone_group ((standalone_reading tight left index first).under
        (Operator.fits_between (standalone_word keyword.toUpper_symbol_ne) fun _ => apart))
  | .junction kind [], index, _ => standalone_word kind.neutral.toUpper_symbol_ne
  | .junction kind (first :: others), index, faultless => by
      obtain ⟨ofFirst, ofOthers⟩ := List.forall_mem_cons.mp
        (Expr.standalone_readingsOfAll tight (first :: others) index faultless)
      have looser := Nat.lt_of_le_of_lt kind.level_asInfix_le tight
      have holds := ofFirst.lt_hold looser kind.asInfix.level_lt_beyond
      have chain := kind.fits_foldl tight ofOthers (ofFirst.fits _) holds
      exact standalone_group (chain.mono (Nat.zero_le _))
  | .not inner, index, faultless =>
      .negated ((standalone_reading tight inner index faultless).fits 0)

theorem Expr.standalone_readingsOfAll (tight : Infix.and.level < negation) :
    ∀ (members : List Expr) (index : Nat), Expr.faultOfAll? members = none →
      ∀ phrase ∈ Expr.readingsOfAll negation index members, Standalone negation phrase
  | [], index, _ => nofun
  | first :: others, index, faultless => by
      obtain ⟨ofFirst, ofOthers⟩ := Expr.faultOfAll?_cons_eq_none.mp faultless
      exact List.forall_mem_cons.mpr ⟨first.standalone_reading tight index ofFirst,
        Expr.standalone_readingsOfAll tight others _ ofOthers⟩

end

end Fitting

/-! ## Whole texts -/

/-- The text and the parameters of an expression. -/
def Expr.compile (e : Expr) (dialect : Dialect) : Except RenderError Compiled :=
  e.fragments.map (Compiled.ofFragments dialect)

section

variable {dialect : Dialect} {e : Expr} {compiled : Compiled}

theorem Expr.compile_eq_ok_iff : e.compile dialect = .ok compiled ↔
    e.fault? = none ∧ Compiled.ofFragments dialect e.written = compiled := by
  rw [compile, Outcome.map_eq_ok]
  constructor
  · rintro ⟨fragments, answered, rfl⟩
    obtain ⟨faultless, rfl⟩ := fragments_eq_ok_iff.mp answered
    exact ⟨faultless, rfl⟩
  · rintro ⟨faultless, rfl⟩
    exact ⟨e.written, fragments_eq_ok_iff.mpr ⟨faultless, rfl⟩, rfl⟩

/-- The text of a rendered expression has the tokens of its reading. -/
theorem Expr.tokens_text (standard : dialect.IsStandard)
    (rendered : e.compile dialect = .ok compiled) (negation : Nat) :
    Token.ofText? compiled.text = some (e.reading negation 0).tokens := by
  obtain ⟨faultless, rfl⟩ := compile_eq_ok_iff.mp rendered
  have spelled : Token.Spells 0 _ _ (e.reading negation 0).tokens :=
    e.spells_written standard 0 faultless
  have reads := spelled Token.ends_nil (.nil _)
  rw [List.append_nil, List.append_nil] at reads
  exact Token.ofText?_eq_some reads

/-- **The text of a rendered expression is read as its reading**, for every `NOT` that binds
tighter than `AND`. -/
theorem Expr.ofText?_text (standard : dialect.IsStandard)
    (rendered : e.compile dialect = .ok compiled) {negation : Nat}
    (tight : Infix.and.level < negation) :
    Phrase.ofText? negation compiled.text = some (e.reading negation 0) := by
  have faultless := (compile_eq_ok_iff.mp rendered).1
  have fits := (e.standalone_reading tight 0 faultless).fits 0
  rw [Phrase.ofText?, tokens_text standard rendered negation]
  simp only [Option.bind_eq_bind, Option.bind_some, Phrase.read_tokens fits]

end

end TypedSql
