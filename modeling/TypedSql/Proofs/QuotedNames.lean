import TypedSql.Dialect
import TypedSql.Proofs.Tokens

/-!
# Quoted names end where they should

A reader that takes a doubled quote for one quote and stops at the first quote that is not doubled
reads a quoted text just where one is written (`Quoted.read?_eq_some_iff`): the quoted text stands
in front, and what follows does not begin with a quote. So a quoted name is read back whatever
quotes it holds, for any character that a dialect quotes with, and what follows a name says nothing
about which name it is.
-/

set_option autoImplicit false

namespace TypedSql

namespace Quoted

variable {quote : Char} {input text rest : List Char}

theorem double_cons_quote (text : List Char) :
    double quote (quote :: text) = quote :: quote :: double quote text := by
  simp [double]

theorem double_cons {c : Char} (different : c ≠ quote) (text : List Char) :
    double quote (c :: text) = c :: double quote text := by
  simp [double, different]

/-- What is read inside quotes is written with doubled quotes, and no quote follows the one that
closes it. -/
theorem eq_of_readInside? (read : readInside? quote input = some (text, rest)) :
    input = double quote text ++ quote :: rest ∧ rest.head? ≠ some quote := by
  induction input using readInside?.induct quote generalizing text with
  | case1 => cases read
  | case2 =>
      rw [readInside?, if_pos rfl] at read
      cases read
      exact ⟨rfl, by simp⟩
  | case3 c different =>
      rw [readInside?, if_neg different] at read
      cases read
  | case4 after ih =>
      rw [readInside?, if_pos rfl, if_pos rfl] at read
      obtain ⟨⟨inner, rest'⟩, readRest, same⟩ := Option.map_eq_some_iff.mp read
      cases same
      obtain ⟨rfl, closed⟩ := ih readRest
      exact ⟨by rw [double_cons_quote]; rfl, closed⟩
  | case5 next after different =>
      rw [readInside?, if_pos rfl, if_neg different] at read
      cases read
      exact ⟨rfl, fun head => different (Option.some.inj head)⟩
  | case6 c next after different ih =>
      rw [readInside?, if_neg different] at read
      obtain ⟨⟨inner, rest'⟩, readRest, same⟩ := Option.map_eq_some_iff.mp read
      cases same
      obtain ⟨written, closed⟩ := ih readRest
      exact ⟨by rw [double_cons different, written]; rfl, closed⟩

/-- **A text is read where it is written between quotes and no further quote follows**, and
nowhere else. -/
theorem read?_eq_some_iff : read? quote input = some (text, rest) ↔
    input = enclose quote text ++ rest ∧ rest.head? ≠ some quote := by
  constructor
  · intro read
    cases input with
    | nil => cases read
    | cons c inside =>
        by_cases opens : c = quote
        · rw [read?, if_pos opens] at read
          obtain ⟨rfl, closed⟩ := eq_of_readInside? read
          exact ⟨by simp [enclose, opens], closed⟩
        · rw [read?, if_neg opens] at read
          cases read
  · rintro ⟨rfl, closed⟩
    rw [enclose, List.cons_append, List.append_assoc, List.singleton_append, read?, if_pos rfl]
    exact readInside?_double text closed

/-- A quoted text and what follows it are told apart in one way only. -/
theorem enclose_append_inj {text' rest' : List Char} (closed : rest.head? ≠ some quote)
    (closed' : rest'.head? ≠ some quote)
    (same : enclose quote text ++ rest = enclose quote text' ++ rest') :
    text = text' ∧ rest = rest' := by
  have read : read? quote (enclose quote text ++ rest) = some (text, rest) :=
    read?_eq_some_iff.mpr ⟨rfl, closed⟩
  have read' : read? quote (enclose quote text ++ rest) = some (text', rest') :=
    read?_eq_some_iff.mpr ⟨same, closed'⟩
  rw [read] at read'
  cases read'
  exact ⟨rfl, rfl⟩

end Quoted

namespace Dialect

theorem toList_quoteIdentifier (dialect : Dialect) (name : String) :
    (dialect.quoteIdentifier name).toList = Quoted.enclose dialect.quote name.toList :=
  String.toList_ofList

/-- **A quoted name delimits itself**, with every dialect's quote. It is read back from its first
character on, up to its end, before any text that does not begin with a quote; nothing else is
read as that name. So quoting is injective, and where one quoted name and another stand at the
front of one text, they are one name and the same text follows. -/
theorem identifier_delimits_itself (dialect : Dialect) :
    (∀ name input rest, Quoted.read? dialect.quote input = some (String.toList name, rest) ↔
      input = (dialect.quoteIdentifier name).toList ++ rest ∧ rest.head? ≠ some dialect.quote) ∧
    Function.Injective dialect.quoteIdentifier ∧
    ∀ one other rest rest', rest.head? ≠ some dialect.quote → rest'.head? ≠ some dialect.quote →
      (dialect.quoteIdentifier one).toList ++ rest =
        (dialect.quoteIdentifier other).toList ++ rest' → one = other ∧ rest = rest' := by
  have apart (one other : String) (rest rest' : List Char)
      (closed : rest.head? ≠ some dialect.quote) (closed' : rest'.head? ≠ some dialect.quote)
      (same : (dialect.quoteIdentifier one).toList ++ rest =
        (dialect.quoteIdentifier other).toList ++ rest') : one = other ∧ rest = rest' := by
    rw [toList_quoteIdentifier, toList_quoteIdentifier] at same
    obtain ⟨name, follows⟩ := Quoted.enclose_append_inj closed closed' same
    exact ⟨String.toList_injective name, follows⟩
  refine ⟨?_, ?_, apart⟩
  · intro name input rest
    rw [toList_quoteIdentifier]
    exact Quoted.read?_eq_some_iff
  · intro one other same
    exact (apart one other [] [] (by simp) (by simp) (by rw [same])).1

/-- A dialect that quotes with bars. -/
def barred : Dialect := { generic with quote := '|' }

/-- A name that begins and ends with quotes. -/
theorem identifier_delimits_itself_barred :
    ['.', 'x'].head? ≠ some barred.quote ∧
      Quoted.read? '|' "|||a|||||.x".toList = some ("|a||".toList, ['.', 'x']) ∧
      ∀ other rest, rest.head? ≠ some barred.quote →
        "|||a|||||.x".toList = (barred.quoteIdentifier other).toList ++ rest →
          "|a||" = other ∧ ['.', 'x'] = rest := by
  obtain ⟨read, -, apart⟩ := identifier_delimits_itself barred
  have closed : ['.', 'x'].head? ≠ some barred.quote := by decide
  have written : "|||a|||||.x".toList =
      (barred.quoteIdentifier "|a||").toList ++ ['.', 'x'] := by
    decide +kernel
  refine ⟨closed, (read "|a||" _ _).mpr ⟨written, closed⟩, ?_⟩
  intro other rest closed' same
  exact apart "|a||" other ['.', 'x'] rest closed closed' (written.symm.trans same)

end Dialect

end TypedSql
