import TypedSql.Render.Expr

/-!
# What an expression writes and what it refuses

Rendering an expression does two things at once: it looks for an operator with an operand that
it does not take, and it lists the fragments of the text. Both are functions of their own here.
`Expr.fault?` is the first wrong operand, where an operator comes before its operands and the
left operand before the right one. `Expr.written` is the list of fragments, whatever the
operands are, and `Expr.bound` the values among them that are bound to placeholders.

A literal goes through the codec of its own column type, which never refuses it
(`Value.storedAs_stored`). So a literal always has a fragment (`Value.fragment_eq_ok`), and
wrong operands are all that an expression can fail for.

Rendering answers with the fault if there is one and with what is written otherwise
(`Expr.fragments_eq`), so a property of a rendered expression is a property of `written`.
-/

set_option autoImplicit false

namespace TypedSql

open Fragment

/-! ## Literals -/

namespace Value

/-- A value under the storage class of its own type. -/
def stored : Value → Stored
  | null => .null
  | bool b => .int (if b then 1 else 0)
  | integer n => .int n
  | float x => .float x
  | text s => .text s
  | binary bytes => .blob bytes
  | datetime instant => .int (Int64.ofInt instant.millis)

/-- Whether a literal is bound: NULL and the truth values are written as words. -/
def isBound : Value → Bool
  | null => false
  | bool _ => false
  | _ => true

/-- The stored form of a value under the codec of its own type. -/
def StoredAs (value : Value) (stored : Stored) : Prop :=
  ∃ type, value.columnType? = some type ∧ Codec.encode type value = .ok stored

/-- A bound literal always passes the codec of its own type. -/
theorem storedAs_stored {value : Value} (isBound : value.isBound = true) :
    value.StoredAs value.stored := by
  cases value with
  | null => cases isBound
  | bool _ => cases isBound
  | integer _ => exact ⟨.integer, rfl, rfl⟩
  | float _ => exact ⟨.float, rfl, rfl⟩
  | text _ => exact ⟨.text, rfl, rfl⟩
  | binary _ => exact ⟨.binary, rfl, rfl⟩
  | datetime _ => exact ⟨.datetime, rfl, rfl⟩

/-- What a literal writes. -/
def written : Value → Fragment
  | null => word TruthKeyword.null.symbol
  | bool true => word TruthKeyword.true.symbol
  | bool false => word TruthKeyword.false.symbol
  | value => Fragment.bound value.stored

/-- The stored value that a literal binds: that of every literal but NULL and the truth
values. -/
def bound? : Value → Option Stored
  | null => none
  | bool _ => none
  | value => some value.stored

theorem written_of_isBound {value : Value} (isBound : value.isBound = true) :
    value.written = Fragment.bound value.stored := by
  cases value <;> first | rfl | cases isBound

/-- A literal that is not a word is encoded under its own column type. -/
theorem fragment_of_isBound {value : Value} (isBound : value.isBound = true) {type : ColumnType}
    (own : value.columnType? = some type) :
    value.fragment = encodeAt .literal type value >>= fun stored =>
      pure (Fragment.bound stored) := by
  cases value <;> cases isBound <;> cases own <;> rfl

/-- **Rendering a literal never fails**: it has a column type, whose codec takes it. -/
theorem fragment_eq_ok (value : Value) : value.fragment = .ok value.written := by
  cases isBound : value.isBound with
  | true =>
      obtain ⟨type, own, encoded⟩ := storedAs_stored isBound
      rw [fragment_of_isBound isBound own, encodeAt, encoded, written_of_isBound isBound]
      rfl
  | false =>
      -- the literals that are not bound are words
      cases value with
      | null => rfl
      | bool truth => cases truth <;> rfl
      | _ => cases isBound

theorem mapM_fragment (values : List Value) :
    values.mapM (·.fragment) = (.ok (values.map written) : Except RenderError _) := by
  induction values with
  | nil => rfl
  | cons first rest ih =>
      rw [List.mapM_cons, fragment_eq_ok, ih]
      rfl

end Value

/-! ## Separated parts -/

/-- Parts with a separator before each but the first. -/
theorem Fragment.separated_cons (separator : String) (first : List Fragment)
    (rest : List (List Fragment)) :
    separated separator (first :: rest) =
      first ++ rest.flatMap fun part => word separator :: part := by
  induction rest generalizing first with
  | nil => simp [separated]
  | cons second others ih =>
      have following := ih second
      rw [separated] at following ⊢
      simp [List.intercalate_cons_cons, following]

/-- What is asked of the fragments of separated parts is asked of each part, as long as the
separator has no answer. -/
theorem Fragment.filterMap_separated_of_silent {α : Type} {ask : Fragment → Option α}
    {separator : String} (silent : ask (word separator) = none) (parts : List (List Fragment)) :
    (separated separator parts).filterMap ask = parts.flatMap (·.filterMap ask) := by
  cases parts with
  | nil => rfl
  | cons first rest => simp [separated_cons, List.filterMap_flatMap, silent]

theorem Operator.isMembership_of_isTruthTest {operator : Operator}
    (truthTest : operator.isTruthTest = true) : operator.isMembership = false := by
  cases operator <;> first | rfl | cases truthTest

namespace Expr

/-! ## The two halves of rendering -/

mutual

/-- The first operator with a wrong operand, an operator before its operands. -/
def fault? : Expr → Option OperandError
  | column _ => none
  | literal _ => none
  | binary left operator right =>
      if operator.isTruthTest then some (.mispaired operator .expression)
      else if operator.isMembership && right.isLiteral then some (.mispaired operator .singleLiteral)
      else left.fault?.or right.fault?
  | ofList left operator _ =>
      if operator.isMembership then left.fault? else some (.mispaired operator .list)
  | ofTruth left operator _ =>
      if operator.isTruthTest then left.fault? else some (.mispaired operator .truthKeyword)
  | junction _ members => faultOfAll? members
  | not inner => inner.fault?

/-- The first fault of a list of expressions. -/
def faultOfAll? : List Expr → Option OperandError
  | [] => none
  | first :: rest => first.fault?.or (faultOfAll? rest)

end

/-- An operator between written operands. A membership puts its right operand in
parentheses. -/
def writtenBinary (operator : Operator) (before after : List Fragment) : List Fragment :=
  if operator.isMembership then
    [word "("] ++ before ++ [word (operator.infixed ++ "(")] ++ after ++ [word "))"]
  else [word "("] ++ before ++ [word operator.infixed] ++ after ++ [word ")"]

mutual

/-- The fragments of an expression, whatever its operands are. -/
def written : Expr → List Fragment
  | column reference => reference.fragments
  | literal value => [value.written]
  | binary left operator right => writtenBinary operator left.written right.written
  | ofList left operator values =>
      [word "("] ++ left.written ++ [word (operator.infixed ++ "(")] ++
        separated "," (values.map fun value => [value.written]) ++ [word "))"]
  | ofTruth left operator keyword =>
      [word "("] ++ left.written ++ [word (operator.infixed ++ keyword.symbol), word ")"]
  | junction kind members =>
      if members.isEmpty then [word kind.neutral.symbol]
      else [word "("] ++ separated (" " ++ kind.symbol ++ " ") (writtenOfAll members) ++ [word ")"]
  | not inner => [word "NOT ("] ++ inner.written ++ [word ")"]

/-- The fragments of every one of a list of expressions. -/
def writtenOfAll : List Expr → List (List Fragment)
  | [] => []
  | first :: rest => first.written :: writtenOfAll rest

end

mutual

/-- The values that an expression binds, from left to right. -/
def bound : Expr → List Stored
  | column _ => []
  | literal value => value.bound?.toList
  | binary left _ right => left.bound ++ right.bound
  | ofList left _ values => left.bound ++ values.filterMap (·.bound?)
  | ofTruth left _ _ => left.bound
  | junction _ members => boundOfAll members
  | not inner => inner.bound

/-- The values that a list of expressions binds, from left to right. -/
def boundOfAll : List Expr → List Stored
  | [] => []
  | first :: rest => first.bound ++ boundOfAll rest

end

mutual

/-- **Rendering answers with the first fault, and without one with what is written.** -/
theorem fragments_eq : ∀ e : Expr,
    e.fragments = match e.fault? with
      | some error => .error (.operand error)
      | none => .ok e.written
  | column _ => rfl
  | literal value => by
      rw [fragments, value.fragment_eq_ok]
      rfl
  | binary left operator right => by
      rw [fragments, fault?, written, writtenBinary, fragments_eq left, fragments_eq right]
      cases operator.isTruthTest <;> cases operator.isMembership <;> cases right.isLiteral <;>
        cases left.fault? <;> cases right.fault? <;> rfl
  | ofList left operator values => by
      have members : (values.map Value.written).map (fun member => [member]) =
          values.map fun value => [value.written] := List.map_map ..
      rw [fragments, fault?, written, fragments_eq left, Value.mapM_fragment, ← members]
      cases operator.isMembership <;> cases left.fault? <;> rfl
  | ofTruth left operator keyword => by
      rw [fragments, fault?, written, fragments_eq left]
      cases operator.isTruthTest <;> cases left.fault? <;> rfl
  | junction kind [] => rfl
  | junction kind (first :: rest) => by
      rw [fragments, fault?, written, fragmentsOfAll_eq (first :: rest)]
      cases faultOfAll? (first :: rest) <;> rfl
  | not inner => by
      rw [fragments, fault?, written, fragments_eq inner]
      cases inner.fault? <;> rfl

theorem fragmentsOfAll_eq : ∀ members : List Expr,
    fragmentsOfAll members = match faultOfAll? members with
      | some error => .error (.operand error)
      | none => .ok (writtenOfAll members)
  | [] => rfl
  | first :: rest => by
      rw [fragmentsOfAll, faultOfAll?, writtenOfAll, fragments_eq first, fragmentsOfAll_eq rest]
      cases first.fault? <;> cases faultOfAll? rest <;> rfl

end

/-- An expression renders exactly when it has no fault, and then to what is written. -/
theorem fragments_eq_ok_iff {e : Expr} {fragments : List Fragment} :
    e.fragments = .ok fragments ↔ e.fault? = none ∧ e.written = fragments := by
  rw [fragments_eq]
  cases e.fault? <;> simp

/-! ## Parameters -/

@[simp] theorem parameters_word (text : String) (rest : List Fragment) :
    (word text :: rest).filterMap (·.parameter?) = rest.filterMap (·.parameter?) := rfl

theorem filterMap_separated (separator : String) (parts : List (List Fragment)) :
    (separated separator parts).filterMap (·.parameter?) =
      parts.flatMap fun part => part.filterMap (·.parameter?) :=
  Fragment.filterMap_separated_of_silent rfl parts

theorem parameter?_written (value : Value) : value.written.parameter? = value.bound? := by
  cases value with
  | bool truth => cases truth <;> rfl
  | _ => rfl

theorem parameters_values (values : List Value) :
    (values.map fun value => [value.written]).flatMap (fun part => part.filterMap (·.parameter?)) =
      values.filterMap (·.bound?) := by
  induction values with
  | nil => rfl
  | cons first rest ih =>
      rw [List.map_cons, List.flatMap_cons, ih]
      cases bound? : first.bound? <;> simp [parameter?_written, bound?]

mutual

/-- What an expression writes has the values that it binds for its parameters. -/
theorem parameters_written : ∀ e : Expr, e.written.filterMap (·.parameter?) = e.bound
  | column reference => rfl
  | literal value => by
      cases bound? : value.bound? <;> simp [written, bound, parameter?_written, bound?]
  | binary left operator right => by
      rw [written, bound, writtenBinary]
      split <;> simp [parameters_written left, parameters_written right]
  | ofList left operator values => by
      simp [written, bound, filterMap_separated, parameters_written left, parameters_values]
  | ofTruth left operator keyword => by simp [written, bound, parameters_written left]
  | junction kind [] => rfl
  | junction kind (first :: rest) => by
      simp [written, bound, filterMap_separated, parameters_writtenOfAll (first :: rest)]
  | not inner => by simp [written, bound, parameters_written inner]

theorem parameters_writtenOfAll : ∀ members : List Expr,
    (writtenOfAll members).flatMap (fun part => part.filterMap (·.parameter?)) =
      boundOfAll members
  | [] => rfl
  | first :: rest => by
      rw [writtenOfAll, List.flatMap_cons, parameters_written first,
        parameters_writtenOfAll rest, boundOfAll]

end

/-! ## Faultless expressions -/

theorem fault?_binary_eq_none {left right : Expr} {operator : Operator} :
    (binary left operator right).fault? = none ↔
      operator.isTruthTest = false ∧ (operator.isMembership && right.isLiteral) = false ∧
        left.fault? = none ∧ right.fault? = none := by
  rw [fault?]
  cases operator.isTruthTest <;> cases operator.isMembership && right.isLiteral <;> simp

theorem fault?_ofList_eq_none {left : Expr} {operator : Operator} {values : List Value} :
    (ofList left operator values).fault? = none ↔
      operator.isMembership = true ∧ left.fault? = none := by
  rw [fault?]
  cases operator.isMembership <;> simp

theorem fault?_ofTruth_eq_none {left : Expr} {operator : Operator} {keyword : TruthKeyword} :
    (ofTruth left operator keyword).fault? = none ↔
      operator.isTruthTest = true ∧ left.fault? = none := by
  rw [fault?]
  cases operator.isTruthTest <;> simp

theorem faultOfAll?_cons_eq_none {first : Expr} {rest : List Expr} :
    faultOfAll? (first :: rest) = none ↔ first.fault? = none ∧ faultOfAll? rest = none := by
  rw [faultOfAll?, Option.or_eq_none_iff]

end Expr

end TypedSql
