import TypedSql.Sql.Token

/-!
# Texts that are read as tokens

`Token.ReadsAs` says that an input is split into certain tokens by a reader that may take as
many steps as there are characters. Every lemma puts one more token before an input that is
already read, so the tokens of a long text are found from its end.

A word ends where the next character continues no word, and a quoted name where the closing
quote is not doubled. `Token.Ends` is what both need of the characters that follow.
-/

set_option autoImplicit false

namespace TypedSql

/-! ## Runs of characters and quoted texts -/

/-- A run of characters ends where the next character is of another kind. -/
theorem takeWhile_append_of_stop {kind : Char → Bool} {run rest : List Char}
    (each : ∀ c ∈ run, kind c = true) (stop : ∀ c, rest.head? = some c → kind c = false) :
    (run ++ rest).takeWhile kind = run ∧ (run ++ rest).dropWhile kind = rest := by
  have none : rest.takeWhile kind = [] ∧ rest.dropWhile kind = rest := by
    cases rest with
    | nil => exact ⟨rfl, rfl⟩
    | cons c rest => simp [stop c rfl]
  rw [List.takeWhile_append_of_pos each, List.dropWhile_append_of_pos each, none.1, none.2,
    List.append_nil]
  exact ⟨rfl, rfl⟩

/-- A text whose quotes are doubled is read up to the quote that closes it. -/
theorem Quoted.readInside?_double {quote : Char} (text : List Char) {rest : List Char}
    (closed : rest.head? ≠ some quote) :
    readInside? quote (double quote text ++ quote :: rest) = some (text, rest) := by
  induction text with
  | nil =>
      cases rest with
      | nil => simp [double, readInside?]
      | cons next rest =>
          have different : next ≠ quote := fun same => closed (congrArg some same)
          simp [double, readInside?, different]
  | cons c text ih =>
      by_cases same : c = quote
      · subst same
        simp [double, readInside?, ih]
      · obtain ⟨next, after, follows⟩ : ∃ next after,
            double quote text ++ quote :: rest = next :: after := by
          cases double quote text <;> simp
        rw [follows] at ih
        simp [double, same, follows, readInside?, ih]

namespace Sql.Token

/-! ## One token -/

/-- What may follow a word or a quoted name. -/
def Ends (rest : List Char) : Prop :=
  ∀ c, rest.head? = some c → continuesWord c = false ∧ c ≠ '"'

theorem ends_nil : Ends [] := nofun

theorem ends_cons {c : Char} (ends : continuesWord c = false ∧ c ≠ '"') (rest : List Char) :
    Ends (c :: rest) := by
  intro next head
  cases head
  exact ends

/-- Whether a text is a single word, and cannot begin a blob literal. -/
def isWord (text : String) : Bool :=
  match text.toList with
  | first :: others => startsWord first && first != 'X' && others.all continuesWord
  | [] => false

/-- The input is split into the tokens when placeholders are numbered from `index` on. -/
def ReadsAs (index : Nat) (input : List Char) (tokens : List Token) : Prop :=
  ∀ steps, input.length ≤ steps → split steps index input = some tokens

theorem ofText?_eq_some {characters : List Char} {tokens : List Token}
    (reads : ReadsAs 0 characters tokens) :
    ofText? (String.ofList characters) = some tokens := by
  rw [ofText?, String.toList_ofList, String.length_ofList]
  exact reads _ (Nat.le_refl _)

namespace ReadsAs

variable {index : Nat} {rest : List Char} {tokens : List Token}

theorem nil (index : Nat) : ReadsAs index [] [] := by
  intro steps _
  cases steps <;> rfl

/-- A token is read and the rest after it. -/
theorem step {first : Char} {input after : List Char} {token : Token}
    (visible : first.isWhitespace = false) (read : read? index first input = some (token, after))
    (shorter : after.length ≤ input.length)
    (reads : ReadsAs (if token = placeholder index then index + 1 else index) after tokens) :
    ReadsAs index (first :: input) (token :: tokens) := by
  intro steps enough
  cases steps with
  | zero => exact absurd enough (Nat.not_succ_le_zero _)
  | succ steps =>
      have others := reads steps (Nat.le_trans shorter (Nat.le_of_succ_le_succ enough))
      simp [split, visible, read, others]

theorem blank (reads : ReadsAs index rest tokens) : ReadsAs index (' ' :: rest) tokens := by
  intro steps enough
  cases steps with
  | zero => exact absurd enough (Nat.not_succ_le_zero _)
  | succ steps => exact reads steps (Nat.le_of_succ_le_succ enough)

theorem parameter (reads : ReadsAs (index + 1) rest tokens) :
    ReadsAs index ('?' :: rest) (placeholder index :: tokens) :=
  step rfl rfl (Nat.le_refl _) (by simpa using reads)

/-- A symbol of one character that starts no symbol of two. -/
theorem symbol {c : Char} (isSymbol : c ∈ ['(', ')', ',', '.', '='])
    (reads : ReadsAs index rest tokens) :
    ReadsAs index (c :: rest) (mark (String.singleton c) :: tokens) := by
  simp only [List.mem_cons, List.not_mem_nil, or_false] at isSymbol
  have visible : c.isWhitespace = false ∧ startsWord c = false := by
    rcases isSymbol with rfl | rfl | rfl | rfl | rfl <;> exact ⟨rfl, rfl⟩
  have read : read? index c rest = some (mark (String.singleton c), rest) := by
    rcases isSymbol with rfl | rfl | rfl | rfl | rfl <;>
      cases rest <;> simp [read?, readMark, doubleMarks, visible]
  exact step visible.1 read (Nat.le_refl _) (by simpa using reads)

/-- A word is read up to the character that does not continue it. -/
theorem letters {text : String} (isWord : isWord text = true) (ends : Ends rest)
    (reads : ReadsAs index rest tokens) :
    ReadsAs index (text.toList ++ rest) (word text :: tokens) := by
  rw [Token.isWord] at isWord
  split at isWord
  next first others same =>
    simp only [Bool.and_eq_true, bne_iff_ne, ne_eq, List.all_eq_true] at isWord
    obtain ⟨⟨starts, noBlob⟩, continues⟩ := isWord
    have differs {c : Char} (never : startsWord c = false) : first ≠ c := by
      rintro rfl
      exact absurd starts (by simp [never])
    obtain ⟨taken, dropped⟩ :=
      takeWhile_append_of_stop continues fun c head => (ends c head).1
    have read : read? index first (others ++ rest) = some (word text, rest) := by
      have whole : String.ofList (first :: others) = text := by
        rw [← same, String.ofList_toList]
      simp [read?, differs (c := '"') (by decide), differs (c := '\'') (by decide),
        differs (c := '?') (by decide), noBlob, starts, taken, dropped, whole]
    have visible : first.isWhitespace = false := by
      simp [Char.isWhitespace, differs (c := ' ') (by decide), differs (c := '\t') (by decide),
        differs (c := '\r') (by decide), differs (c := '\n') (by decide)]
    rw [same]
    exact step visible read (by simp) (by simpa using reads)
  next => cases isWord

/-- A quoted name is read whole, whatever characters it holds. -/
theorem quoted (name : String) (ends : Ends rest) (reads : ReadsAs index rest tokens) :
    ReadsAs index (Quoted.enclose '"' name.toList ++ rest) (identifier name :: tokens) := by
  have closed : rest.head? ≠ some '"' := fun head => (ends '"' head).2 rfl
  have read : read? index '"' (Quoted.double '"' name.toList ++ '"' :: rest) =
      some (identifier name, rest) := by
    simp [read?, Quoted.readInside?_double name.toList closed]
  rw [Quoted.enclose, List.cons_append, List.append_assoc]
  exact step rfl read (by simp; omega) (by simpa using reads)

end ReadsAs

/-! ## Pieces of a text -/

/-- The characters spell the tokens before whatever ends them. So many of the tokens are
placeholders, and they are numbered from `index` on. -/
def Spells (index count : Nat) (characters : List Char) (spelled : List Token) : Prop :=
  ∀ ⦃rest : List Char⦄ ⦃tokens : List Token⦄, Ends rest →
    ReadsAs (index + count) rest tokens → ReadsAs index (characters ++ rest) (spelled ++ tokens)

namespace Spells

variable {index count count' : Nat} {characters characters' : List Char}
  {spelled spelled' : List Token}

theorem nil (index : Nat) : Spells index 0 [] [] := fun _ _ _ reads => reads

/-- One piece after another, where the second ends the first. -/
theorem append (first : Spells index count characters spelled)
    (second : Spells (index + count) count' characters' spelled')
    (apart : ∀ rest, Ends rest → Ends (characters' ++ rest)) :
    Spells index (count + count') (characters ++ characters') (spelled ++ spelled') := by
  intro rest tokens ends reads
  rw [← Nat.add_assoc] at reads
  rw [List.append_assoc, List.append_assoc]
  exact first (apart rest ends) (second ends reads)

theorem symbol {c : Char} (isSymbol : c ∈ ['(', ')', ',', '.', '='])
    (piece : Spells index count characters spelled) :
    Spells index count (c :: characters) (mark (String.singleton c) :: spelled) :=
  fun _ _ ends reads => .symbol isSymbol (piece ends reads)

theorem enclosed (piece : Spells index count characters spelled) :
    Spells index count ('(' :: (characters ++ [')'])) (mark "(" :: (spelled ++ [mark ")"])) := by
  have closed : Spells (index + count) 0 [')'] [mark ")"] := (nil _).symbol (by decide)
  exact (piece.append closed fun rest _ => ends_cons (by decide) rest).symbol (by decide)

/-- A word between blanks before a piece. -/
theorem spaced {text : String} (isWord : isWord text = true)
    (piece : Spells index count characters spelled) :
    Spells index count ((" " ++ text ++ " ").toList ++ characters) (word text :: spelled) := by
  intro rest tokens ends reads
  have behind := (ReadsAs.letters isWord (ends_cons (by decide) _) (piece ends reads).blank).blank
  simpa using behind

end Spells

end Sql.Token

end TypedSql
