import TypedSql.Proofs.Literals
import TypedSql.Proofs.Wording

/-!
# Every placeholder has its parameter

The number of placeholders is counted in the finished text by a scanner of its own, which knows
nothing of fragments: it skips what stands between quotes and counts the question marks
outside. Every fragment opens and closes its own quotes, so the scanner is outside quotes
before and after each of them, whatever characters a name or a text holds
(`Compiled.countOutside_chars`). It therefore counts one for a bound value and nothing for any
other fragment, and the count is the number of parameters
(`Statement.placeholderCount_eq_length`).
-/

set_option autoImplicit false

namespace TypedSql

/-- A dialect with the quotes and the placeholder of standard SQL. -/
structure Dialect.IsStandard (dialect : Dialect) : Prop where
  quote : dialect.quote = '"'
  placeholder : dialect.placeholder = "?"

theorem Dialect.sqlite_isStandard : Dialect.sqlite.IsStandard := ⟨rfl, rfl⟩

theorem Dialect.generic_isStandard : Dialect.generic.IsStandard := ⟨rfl, rfl⟩

namespace Compiled

/-! ## What the scanner passes over -/

/-- A character that the scanner passes over outside quotes. -/
def IsNeutral (c : Char) : Prop := c ≠ '"' ∧ c ≠ '\'' ∧ c ≠ '?'

theorem isNeutral_of_isPlainChar {c : Char} (plain : isPlainChar c = true) : IsNeutral c := by
  refine ⟨?_, ?_, ?_⟩ <;> rintro rfl <;> exact absurd plain (by decide)

theorem isNeutral_of_isNumberChar {c : Char} (number : isNumberChar c = true) :
    IsNeutral c := by
  refine ⟨?_, ?_, ?_⟩ <;> rintro rfl <;> exact absurd number (by decide)

theorem countOutside_neutral {text : List Char} (neutral : ∀ c ∈ text, IsNeutral c)
    (rest : List Char) : countOutside none (text ++ rest) = countOutside none rest := by
  induction text with
  | nil => rfl
  | cons c text ih =>
      obtain ⟨⟨notDouble, notSingle, notMark⟩, others⟩ := List.forall_mem_cons.mp neutral
      simp only [List.cons_append, countOutside, notDouble, notSingle, notMark, or_self,
        if_false]
      exact ih others

/-- Inside quotes the scanner runs over a doubled text to the closing quote, leaving and
entering the quotes again at every doubled one. -/
theorem countOutside_double {quote : Char} (isQuote : quote = '"' ∨ quote = '\'')
    (text rest : List Char) :
    countOutside (some quote) (Quoted.double quote text ++ quote :: rest) =
      countOutside none rest := by
  induction text with
  | nil => simp [Quoted.double, countOutside]
  | cons c text ih =>
      by_cases same : c = quote
      · subst same
        simpa [Quoted.double, countOutside, isQuote] using ih
      · simpa [Quoted.double, countOutside, same] using ih

theorem countOutside_enclose {quote : Char} (isQuote : quote = '"' ∨ quote = '\'')
    (text rest : List Char) :
    countOutside none (Quoted.enclose quote text ++ rest) = countOutside none rest := by
  have inside := countOutside_double isQuote text rest
  simpa [Quoted.enclose, countOutside, isQuote] using inside

theorem countOutside_literal (value : Stored) (rest : List Char) :
    countOutside none (value.literal ++ rest) = countOutside none rest := by
  cases value with
  | null => rfl
  | int n =>
      exact countOutside_neutral (fun c member =>
        isNeutral_of_isNumberChar ((isSigned_integerDigits _).isNumberChar_of_mem member)) rest
  | float x =>
      exact countOutside_neutral (fun c member =>
        isNeutral_of_isNumberChar (x.isSigned_plainText.isNumberChar_of_mem member)) rest
  | text s => exact countOutside_enclose (.inr rfl) s.toList rest
  | blob bytes => exact countOutside_enclose (.inr rfl) (bytes.flatMap Stored.hexByte) rest

/-! ## Fragments -/

variable {dialect : Dialect}

theorem countOutside_word {text : String} (neutral : ∀ c ∈ text.toList, IsNeutral c)
    (rest : List Char) :
    countOutside none ((Fragment.word text).chars dialect ++ rest) = countOutside none rest :=
  countOutside_neutral neutral rest

/-- **A plain fragment leaves the scanner outside quotes**, and is counted exactly if it binds a
value. -/
theorem countOutside_chars (standard : dialect.IsStandard) {fragment : Fragment}
    (plain : fragment.isPlain = true) (rest : List Char) :
    countOutside none (fragment.chars dialect ++ rest) =
      fragment.parameter?.toList.length + countOutside none rest := by
  cases fragment with
  | word text =>
      rw [countOutside_word fun c member =>
        isNeutral_of_isPlainChar (List.all_eq_true.mp plain c member)]
      simp [Fragment.parameter?]
  | identifier name =>
      have quotes := countOutside_enclose (.inl standard.quote) name.toList rest
      simpa [Fragment.chars, Dialect.identifier, Fragment.parameter?] using quotes
  | inline value =>
      simpa [Fragment.chars, Fragment.parameter?] using countOutside_literal value rest
  | bound value =>
      simp only [Fragment.chars, standard.placeholder, Fragment.parameter?]
      exact Nat.add_comm _ 1

theorem countOutside_flatMap (standard : dialect.IsStandard) {fragments : List Fragment}
    (plain : allPlain fragments = true) (rest : List Char) :
    countOutside none (fragments.flatMap (·.chars dialect) ++ rest) =
      (fragments.filterMap (·.parameter?)).length + countOutside none rest := by
  induction fragments with
  | nil => simp
  | cons first others ih =>
      rw [allPlain_cons, Bool.and_eq_true] at plain
      rw [List.flatMap_cons, List.append_assoc, countOutside_chars standard plain.1,
        ih plain.2]
      cases first with
      | bound value =>
          simp [Fragment.parameter?]
          omega
      | _ => simp [Fragment.parameter?]

/-- A closed list of fragments has as many placeholders as parameters. -/
theorem placeholderCount_ofFragments (standard : dialect.IsStandard)
    {fragments : List Fragment} (closed : Fragment.IsClosed fragments) :
    (ofFragments dialect fragments).placeholderCount =
      (ofFragments dialect fragments).parameters.length := by
  obtain ⟨body, closing, rfl, either, plain⟩ := closed
  have last : countOutside none ((Fragment.word closing).chars dialect) = 0 := by
    rcases either with rfl | rfl <;> rfl
  simp [placeholderCount, ofFragments, countOutside_flatMap standard plain, last,
    Fragment.parameter?]

end Compiled

/-! ## Statements -/

/-- **The text of a rendered statement has as many placeholders as the statement has
parameters**, in the dialect of SQLite and in the generic one, for every statement that renders:
a table to create, records to insert, a query with any fields, and a deletion. -/
theorem Statement.placeholderCount_eq_length {dialect : Dialect}
    (known : dialect = .sqlite ∨ dialect = .generic) {statement : Statement}
    {compiled : Compiled} (rendered : statement.compile dialect = .ok compiled) :
    compiled.placeholderCount = compiled.parameters.length := by
  have plain : dialect.IsPlain := by
    rcases known with rfl | rfl
    · exact Dialect.sqlite_isPlain
    · exact Dialect.generic_isPlain
  have standard : dialect.IsStandard := by
    rcases known with rfl | rfl
    · exact Dialect.sqlite_isStandard
    · exact Dialect.generic_isStandard
  obtain ⟨fragments, answered, rfl⟩ := Outcome.map_eq_ok.mp rendered
  exact Compiled.placeholderCount_ofFragments standard
    (Statement.fragments_closed plain answered)

/-- A deletion under names that hold both kinds of quotes, question marks, semicolons and line
breaks. -/
def Delete.ofQuotedNames : Delete :=
  ⟨"a\"?'", "?;\n\"'", some (.binary
    (.column ⟨⟨"c'?\"", .text, false, false, false, false, none, none⟩, "?;\n\"'"⟩) .eq
    (.literal (.text "it's ?")))⟩

/-- The deletion binds one value, and its text has one placeholder. -/
theorem Statement.placeholderCount_ofQuotedNames :
    ∃ compiled, (Statement.delete .ofQuotedNames).compile .sqlite = .ok compiled ∧
      compiled.parameters = [.text "it's ?"] ∧
      compiled.placeholderCount = compiled.parameters.length :=
  ⟨_, rfl, rfl, placeholderCount_eq_length (.inl rfl)
    (rfl : (Statement.delete .ofQuotedNames).compile .sqlite = _)⟩

end TypedSql
