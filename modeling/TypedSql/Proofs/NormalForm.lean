import TypedSql.Proofs.Precedence

/-!
# What can be read off a rendered expression

Different expressions may render to the same text with the same parameters. The text shows a
column by its owner and its name in SQL, and a literal by what is bound for it. It does not
show whether a single condition was joined by `AND` or by `OR`, whether a truth value was a
literal or an empty junction, nor whether a membership asked about a list of one.
`Expr.normal` keeps what is shown and nothing else.

Reading goes the other way. `Phrase.normal` takes the phrase of a text apart again and puts the
parameters back where their placeholders stand, so that `Compiled.normal?` finds the normal form
in the text and the parameters (`Expr.normal?_compiled`). Writing depends on the normal form
alone (`Expr.written_normal`). So two expressions render to the same text and the same parameters
if and only if they have the same normal form (`Expr.uniquely_readable`).
-/

set_option autoImplicit false

namespace TypedSql

open Sql

/-! ## Normal forms -/

/-- What a rendered expression shows. -/
inductive Normal where
  | column (owner name : String)
  | bound (value : Stored)
  | truth (keyword : TruthKeyword)
  | binary (left : Normal) (operator : Operator) (right : Normal)
  | isIn (left : Normal) (operator : Operator) (members : List Normal)
  | ofTruth (left : Normal) (operator : Operator) (keyword : TruthKeyword)
  | single (member : Normal)
  | junction (kind : Junction) (members : List Normal)
  | not (inner : Normal)

/-- The normal form of a literal. -/
def Value.normal : Value → Normal
  | null => .truth .null
  | bool true => .truth .true
  | bool false => .truth .false
  | value => .bound value.stored

/-- The normal form of joined conditions. A single one forgets how it was joined. -/
def Junction.normal (kind : Junction) : List Normal → Normal
  | [] => .truth kind.neutral
  | [member] => .single member
  | members => .junction kind members

namespace Expr

mutual

/-- The normal form of an expression. A membership in an expression is one in a list of one. -/
def normal : Expr → Normal
  | column reference => .column reference.owner reference.sqlName
  | literal value => value.normal
  | binary left operator right =>
      if operator.isMembership then .isIn left.normal operator [right.normal]
      else .binary left.normal operator right.normal
  | ofList left operator values => .isIn left.normal operator (values.map (·.normal))
  | ofTruth left operator keyword => .ofTruth left.normal operator keyword
  | junction kind members => kind.normal (normalOfAll members)
  | not inner => .not inner.normal

/-- The normal forms of a list of expressions. -/
def normalOfAll : List Expr → List Normal
  | [] => []
  | first :: rest => first.normal :: normalOfAll rest

end

end Expr

/-! ## Writing a normal form -/

namespace Normal

open Fragment

mutual

/-- The fragments of a normal form. -/
def written : Normal → List Fragment
  | column owner name => [identifier owner, word ".", identifier name]
  | bound value => [Fragment.bound value]
  | truth keyword => [word keyword.symbol]
  | binary left operator right => Expr.writtenBinary operator left.written right.written
  | isIn left operator members =>
      [word "("] ++ left.written ++ [word (operator.infixed ++ "(")] ++
        separated "," (writtenOfAll members) ++ [word "))"]
  | ofTruth left operator keyword =>
      [word "("] ++ left.written ++ [word (operator.infixed ++ keyword.symbol), word ")"]
  | single member => [word "("] ++ member.written ++ [word ")"]
  | junction kind members =>
      [word "("] ++ separated (" " ++ kind.symbol ++ " ") (writtenOfAll members) ++ [word ")"]
  | not inner => [word "NOT ("] ++ inner.written ++ [word ")"]

/-- The fragments of every one of a list of normal forms. -/
def writtenOfAll : List Normal → List (List Fragment)
  | [] => []
  | first :: rest => first.written :: writtenOfAll rest

end

theorem writtenOfAll_eq_map (members : List Normal) :
    writtenOfAll members = members.map written := by
  induction members with
  | nil => rfl
  | cons first rest ih => rw [writtenOfAll, ih, List.map_cons]

end Normal

theorem Value.written_normal (value : Value) : value.normal.written = [value.written] := by
  cases value with
  | bool truth => cases truth <;> rfl
  | _ => rfl

mutual

/-- **What an expression writes depends on its normal form alone.** -/
theorem Expr.written_normal : ∀ e : Expr, e.normal.written = e.written
  | .column reference => rfl
  | .literal value => by rw [Expr.normal, value.written_normal, Expr.written]
  | .binary left operator right => by
      rw [Expr.normal, Expr.written]
      split
      · next membership =>
          simp [Normal.written, Normal.writtenOfAll, Expr.writtenBinary, membership,
            left.written_normal, right.written_normal, Fragment.separated]
      · rw [Normal.written, left.written_normal, right.written_normal]
  | .ofList left operator values => by
      have members : Normal.writtenOfAll (values.map (·.normal)) =
          values.map fun value => [value.written] := by
        rw [Normal.writtenOfAll_eq_map, List.map_map]
        exact List.map_congr_left fun value _ => value.written_normal
      rw [Expr.normal, Expr.written, Normal.written, left.written_normal, members]
  | .ofTruth left operator keyword => by
      rw [Expr.normal, Expr.written, Normal.written, left.written_normal]
  | .junction kind [] => rfl
  | .junction kind [member] => by
      simp [Expr.normal, Expr.normalOfAll, Junction.normal, Normal.written, Expr.written,
        Expr.writtenOfAll, member.written_normal, Fragment.separated]
  | .junction kind (first :: second :: rest) => by
      have members := Expr.written_normalOfAll (first :: second :: rest)
      simp only [Expr.normalOfAll] at members
      simp [Expr.normal, Expr.normalOfAll, Junction.normal, Normal.written, Expr.written,
        members]
  | .not inner => by rw [Expr.normal, Expr.written, Normal.written, inner.written_normal]

theorem Expr.written_normalOfAll : ∀ members : List Expr,
    Normal.writtenOfAll (Expr.normalOfAll members) = Expr.writtenOfAll members
  | [] => rfl
  | first :: rest => by
      rw [Expr.normalOfAll, Normal.writtenOfAll, Expr.writtenOfAll, first.written_normal,
        Expr.written_normalOfAll rest]

end

/-! ## Reading a normal form -/

/-- The operator of a comparison. -/
def Sql.Comparison.operator : Comparison → Operator
  | eq => .eq
  | notEq => .notEq
  | lt => .lt
  | ltEq => .ltEq
  | gt => .gt
  | gtEq => .gtEq

/-- The truth keyword that a word is. -/
def TruthKeyword.ofSymbol (letters : String) : TruthKeyword :=
  if letters = "TRUE" then true else if letters = "FALSE" then false else null

/-- A normal form with one more condition. A chain of the same kind grows, anything else is the
first of two. -/
def Normal.joined (kind : Junction) (isChain : Bool) (left right : Normal) : Normal :=
  match isChain, left with
  | true, junction _ members => junction kind (members ++ [right])
  | _, left => junction kind [left, right]

namespace Sql.Phrase

/-- Whether a phrase is an operator with its operands, without parentheses. -/
def isBare : Phrase → Bool
  | binary _ _ _ => true
  | isIn _ _ _ => true
  | _ => false

/-- Whether a phrase is a chain of conditions. -/
def isChain (kind : Junction) : Phrase → Bool
  | binary operator _ _ => operator = kind.asInfix
  | _ => false

/-- The letters of a word. -/
def letters : Phrase → String
  | word letters => letters
  | _ => ""

mutual

/-- The normal form that a phrase shows with the given parameters. -/
def normal (parameters : List Stored) : Phrase → Normal
  | column qualifier name => .column qualifier name
  | placeholder index => .bound (parameters.getD index .null)
  | word letters => .truth (.ofSymbol letters)
  | group inner =>
      if inner.isBare then inner.normal parameters else .single (inner.normal parameters)
  | not (group inner) => .not (inner.normal parameters)
  | not inner => .not (inner.normal parameters)
  | binary .and left right =>
      .joined .and (left.isChain .and) (left.normal parameters) (right.normal parameters)
  | binary .or left right =>
      .joined .or (left.isChain .or) (left.normal parameters) (right.normal parameters)
  | binary (.compare comparison) left right =>
      .binary (left.normal parameters) comparison.operator (right.normal parameters)
  | binary (.like negated) left right =>
      .binary (left.normal parameters) (if negated then .notLike else .like)
        (right.normal parameters)
  | binary (.is negated) left right =>
      .ofTruth (left.normal parameters) (if negated then .isNot else .is) (.ofSymbol right.letters)
  | binary (.isIn negated) left right =>
      .isIn (left.normal parameters) (if negated then .notIn else .isIn)
        [right.normal parameters]
  | isIn negated left members =>
      .isIn (left.normal parameters) (if negated then .notIn else .isIn)
        (normalOfAll parameters members)

/-- The normal forms that phrases show with the given parameters. -/
def normalOfAll (parameters : List Stored) : List Phrase → List Normal
  | [] => []
  | first :: rest => first.normal parameters :: normalOfAll parameters rest

end

theorem normalOfAll_eq_map (parameters : List Stored) (members : List Phrase) :
    normalOfAll parameters members = members.map (·.normal parameters) := by
  induction members with
  | nil => rfl
  | cons first rest ih => rw [normalOfAll, ih, List.map_cons]

end Sql.Phrase

/-! ## The phrase of an expression shows its normal form -/

/-- The parameters from an index on begin with the values. -/
def Supplies (parameters : List Stored) (index : Nat) (values : List Stored) : Prop :=
  values <+: parameters.drop index

theorem Supplies.of_append {parameters : List Stored} {index : Nat} {first second : List Stored}
    (supplies : Supplies parameters index (first ++ second)) :
    Supplies parameters index first ∧ Supplies parameters (index + first.length) second := by
  obtain ⟨others, same⟩ := supplies
  refine ⟨⟨second ++ others, by rw [← same, List.append_assoc]⟩, others, ?_⟩
  rw [← List.drop_drop, ← same, List.append_assoc, List.drop_left]

theorem Supplies.getD {parameters : List Stored} {index : Nat} {value : Stored}
    (supplies : Supplies parameters index [value]) : parameters.getD index .null = value := by
  obtain ⟨others, same⟩ := supplies
  have found : parameters[index]? = some value := by
    rw [← List.head?_drop, ← same]
    rfl
  rw [List.getD_eq_getElem?_getD, found, Option.getD_some]

section

variable {parameters : List Stored} {index : Nat}

theorem TruthKeyword.ofSymbol_symbol (keyword : TruthKeyword) :
    ofSymbol keyword.symbol = keyword := by
  cases keyword <;> rfl

theorem Value.normal_phrase {value : Value}
    (supplies : Supplies parameters index value.bound?.toList) :
    (value.phrase index).normal parameters = value.normal := by
  cases value with
  | null => rfl
  | bool truth => cases truth <;> rfl
  | _ => exact congrArg Normal.bound supplies.getD

theorem Value.map_normal_phrases {values : List Value}
    (supplies : Supplies parameters index (values.filterMap (·.bound?))) :
    (Value.phrases index values).map (·.normal parameters) = values.map (·.normal) := by
  induction values generalizing index with
  | nil => rfl
  | cons first others ih =>
      have split : (first :: others).filterMap (·.bound?) =
          first.bound?.toList ++ others.filterMap (·.bound?) := by
        cases bound : first.bound? <;> simp [bound]
      rw [split] at supplies
      obtain ⟨ofFirst, ofOthers⟩ := supplies.of_append
      rw [Value.phrases, List.map_cons, List.map_cons, normal_phrase ofFirst, ih ofOthers]

theorem Operator.normal_among {operator : Operator} (membership : operator.isMembership = true)
    (members : List Phrase) (left : Phrase) :
    (operator.among members left).normal parameters =
      .isIn (left.normal parameters) operator (members.map (·.normal parameters)) := by
  rw [among, Phrase.normal, Phrase.normalOfAll_eq_map]
  cases operator <;> first | rfl | cases membership

theorem Operator.normal_between {operator : Operator} (noTruthTest : operator.isTruthTest = false)
    (right left : Phrase) :
    (operator.between right left).normal parameters =
      if operator.isMembership then
        .isIn (left.normal parameters) operator [right.normal parameters]
      else .binary (left.normal parameters) operator (right.normal parameters) := by
  rw [between]
  split
  · next membership => rw [normal_among membership, List.map_singleton]
  · cases operator <;> first | rfl | simp_all [isTruthTest, isMembership]

theorem Operator.normal_between_truth {operator : Operator}
    (truthTest : operator.isTruthTest = true) (keyword : TruthKeyword) (left : Phrase) :
    (operator.between (.word keyword.symbol) left).normal parameters =
      .ofTruth (left.normal parameters) operator keyword := by
  have symbol := keyword.ofSymbol_symbol
  cases operator <;>
    first | exact congrArg (Normal.ofTruth _ _) symbol | cases truthTest

theorem Operator.isBare_between (operator : Operator) (right left : Phrase) :
    (operator.between right left).isBare = true := by
  rw [between]
  split <;> rfl

theorem Sql.Phrase.normal_group_of_isBare {inner : Phrase} (bare : inner.isBare = true) :
    (group inner).normal parameters = inner.normal parameters := by
  rw [normal, if_pos bare]

theorem Junction.normal_binary (kind : Junction) (left right : Phrase) :
    (Phrase.binary kind.asInfix left right).normal parameters =
      .joined kind (left.isChain kind) (left.normal parameters) (right.normal parameters) := by
  cases kind <;> rfl

/-- A chain shows the conditions before it and those that were joined to it. -/
theorem Junction.normal_foldl (kind : Junction) {chain : Phrase}
    (isChain : chain.isChain kind = true) {shown : List Normal}
    (normal : chain.normal parameters = .junction kind shown) (members : List Phrase) :
    (members.foldl (.binary kind.asInfix) chain).normal parameters =
        .junction kind (shown ++ members.map (·.normal parameters)) ∧
      (members.foldl (.binary kind.asInfix) chain).isBare = true := by
  induction members generalizing chain shown with
  | nil =>
      refine ⟨by simpa using normal, ?_⟩
      cases chain <;> first | rfl | cases isChain
  | cons first others ih =>
      have longer : (Phrase.binary kind.asInfix chain first).normal parameters =
          .junction kind (shown ++ [first.normal parameters]) := by
        rw [kind.normal_binary, isChain, normal]
        rfl
      have joined := ih (by simp [Phrase.isChain]) longer
      simpa using joined

/-- Joined phrases show the normal form of their junction, if each has its parentheses. -/
theorem Junction.normal_joined (kind : Junction) {members : List Phrase}
    (enclosed : ∀ member ∈ members, member.isBare = false) :
    (kind.joined members).normal parameters =
      kind.normal (members.map (·.normal parameters)) := by
  -- A chain starts with two members: one alone is no chain, and none is a truth value.
  match members with
  | [] => exact congrArg Normal.truth kind.neutral.ofSymbol_symbol
  | [member] =>
      rw [joined, List.foldl_nil, Phrase.normal, enclosed member (by simp)]
      rfl
  | first :: second :: rest =>
      have noChain : first.isChain kind = false := by
        have noOperator := enclosed first (by simp)
        cases first <;> first | rfl | cases noOperator
      have two : (Phrase.binary kind.asInfix first second).normal parameters =
          .junction kind [first.normal parameters, second.normal parameters] := by
        rw [kind.normal_binary, noChain]
        rfl
      obtain ⟨shown, bare⟩ := kind.normal_foldl (by simp [Phrase.isChain]) two rest
      rw [joined, List.foldl_cons, Phrase.normal_group_of_isBare bare, shown]
      rfl

/-- Every operator of an expression has its parentheses. -/
theorem Expr.isBare_phrase (e : Expr) (index : Nat) : (e.phrase index).isBare = false := by
  cases e with
  | literal value =>
      cases value with
      | bool truth => cases truth <;> rfl
      | _ => rfl
  | junction kind members => cases members <;> rfl
  | _ => rfl

theorem Expr.isBare_phrasesOfAll (members : List Expr) (index : Nat) :
    ∀ phrase ∈ phrasesOfAll index members, phrase.isBare = false := by
  induction members generalizing index with
  | nil => exact nofun
  | cons first rest ih => exact List.forall_mem_cons.mpr ⟨first.isBare_phrase index, ih _⟩

mutual

/-- **The meant phrase of an expression shows its normal form**, if the parameters hold what the
expression binds. -/
theorem Expr.normal_phrase : ∀ (e : Expr) {index : Nat}, e.fault? = none →
    Supplies parameters index e.bound → (e.phrase index).normal parameters = e.normal
  | .column reference, index, _, _ => rfl
  | .literal value, index, _, supplies => value.normal_phrase supplies
  | .binary left operator right, index, faultless, supplies => by
      obtain ⟨noTruthTest, _, first, second⟩ := fault?_binary_eq_none.mp faultless
      obtain ⟨ofLeft, ofRight⟩ := supplies.of_append
      rw [phrase, Phrase.normal_group_of_isBare (operator.isBare_between _ _),
        Operator.normal_between noTruthTest, normal_phrase left first ofLeft,
        normal_phrase right second ofRight, normal]
  | .ofList left operator values, index, faultless, supplies => by
      obtain ⟨membership, first⟩ := fault?_ofList_eq_none.mp faultless
      obtain ⟨ofLeft, ofValues⟩ := supplies.of_append
      rw [phrase, Phrase.normal_group_of_isBare rfl, Operator.normal_among membership,
        normal_phrase left first ofLeft, Value.map_normal_phrases ofValues, normal]
  | .ofTruth left operator keyword, index, faultless, supplies => by
      obtain ⟨truthTest, first⟩ := fault?_ofTruth_eq_none.mp faultless
      rw [phrase, Phrase.normal_group_of_isBare (operator.isBare_between _ _),
        Operator.normal_between_truth truthTest, normal_phrase left first supplies, normal]
  | .junction kind members, index, faultless, supplies => by
      rw [phrase, kind.normal_joined (isBare_phrasesOfAll members index),
        map_normal_phrasesOfAll members faultless supplies, normal]
  | .not inner, index, faultless, supplies => by
      rw [phrase, Phrase.normal, normal_phrase inner faultless supplies, normal]

theorem Expr.map_normal_phrasesOfAll : ∀ (members : List Expr) {index : Nat},
    Expr.faultOfAll? members = none → Supplies parameters index (Expr.boundOfAll members) →
      (Expr.phrasesOfAll index members).map (·.normal parameters) = Expr.normalOfAll members
  | [], index, _, _ => rfl
  | first :: rest, index, faultless, supplies => by
      obtain ⟨ofFirst, ofRest⟩ := Expr.faultOfAll?_cons_eq_none.mp faultless
      obtain ⟨suppliesFirst, suppliesRest⟩ := supplies.of_append
      rw [Expr.phrasesOfAll, List.map_cons, first.normal_phrase ofFirst suppliesFirst,
        Expr.map_normal_phrasesOfAll rest ofRest suppliesRest, Expr.normalOfAll]

end

end

/-! ## Unique readability -/

/-- The normal form of a rendered expression as it is found in the text and the parameters. -/
def Compiled.normal? (compiled : Compiled) : Option Normal :=
  (Phrase.ofText? Infix.beyond compiled.text).map (·.normal compiled.parameters)

namespace Expr

variable {dialect : Dialect}

/-- **The normal form of an expression is read off its text and its parameters.** -/
theorem normal?_compiled (standard : dialect.IsStandard) {e : Expr} {compiled : Compiled}
    (rendered : e.compile dialect = .ok compiled) : compiled.normal? = some e.normal := by
  have read := ofText?_text standard rendered (by decide : Infix.and.level < Infix.beyond)
  obtain ⟨faultless, rfl⟩ := compile_eq_ok_iff.mp rendered
  have supplies : Supplies (Compiled.ofFragments dialect e.written).parameters 0 e.bound := by
    rw [Compiled.ofFragments, parameters_written]
    exact List.prefix_refl _
  rw [Compiled.normal?, read, Option.map_some, reading_beyond,
    normal_phrase e faultless supplies]

/-- **Two rendered expressions have the same text and the same parameters if and only if they
have the same normal form**, and the normal form is read off the text and the parameters. -/
theorem uniquely_readable (standard : dialect.IsStandard) {first second : Expr}
    {one other : Compiled} (rendered : first.compile dialect = .ok one)
    (renderedToo : second.compile dialect = .ok other) :
    one.normal? = some first.normal ∧ (one = other ↔ first.normal = second.normal) := by
  have read := normal?_compiled standard rendered
  refine ⟨read, ?_, ?_⟩
  · rintro rfl
    exact Option.some.inj (read.symm.trans (normal?_compiled standard renderedToo))
  · intro same
    rw [← (compile_eq_ok_iff.mp rendered).2, ← (compile_eq_ok_iff.mp renderedToo).2,
      ← written_normal first, ← written_normal second, same]

/-- An equality as the only condition of a disjunction. -/
def singleAny : Expr :=
  any [binary (column .sampleLevel) .eq (literal (.integer 5))]

/-- The same equality as the only condition of a conjunction. -/
def singleAll : Expr :=
  all [binary (column .sampleLevel) .eq (literal (.integer 5))]

/-- How a single condition was joined is not shown, and the normal forms agree on it. -/
theorem readable_singles :
    ∃ compiled, singleAny.compile .sqlite = .ok compiled ∧
      singleAll.compile .sqlite = .ok compiled ∧ singleAny.normal = singleAll.normal :=
  ⟨_, rfl, rfl, (uniquely_readable Dialect.sqlite_isStandard
    (rfl : singleAny.compile .sqlite = _) (rfl : singleAll.compile .sqlite = _)).2.mp rfl⟩

end Expr

end TypedSql
