import Mathlib.Data.List.Chain
import TypedSql.Proofs.Literals
import TypedSql.Proofs.Placeholders

/-!
# What stands outside quotes

A text with quotes is read in parts: a character outside quotes is one, and so is all that stands
between two quotes (`Quoted.parts?`). It is read from the characters alone, under the rule that a
doubled quote inside quotes stands for one, and a text that ends inside quotes has no parts.

A quoted text is read as one as long as no quote follows it immediately. In a list of fragments
the words see to that: a word stands behind every name and every value (`Fragment.parted`). The
parts of the text are then those of its fragments, one by one (`Fragment.parts?_chars`).

The outline of a text is what is seen of its parts: what stands outside its quotes, with the
opening quote in the place of every quoted text (`Quoted.outline?`). No character of a name, a
text or a blob is seen in it. The outline of a statement has one semicolon, at its end, and no
mark of a comment (`Fragment.isSingle_outline`). A minus sign stands only at the start of a
number, so that no two of them meet.
-/

set_option autoImplicit false

namespace TypedSql

/-! ## Reading a text with its quotes -/

namespace Quoted

/-- A part of a text: a character outside quotes, or all that stands between two quotes. -/
inductive Part where
  | outside (c : Char)
  | quoted (quote : Char) (content : List Char)
deriving DecidableEq, Repr

/-- The parts of a text, if it ends outside quotes. The reader starts outside quotes, or inside
the given ones after what it has read there. -/
def partsFrom? : Option (Char × List Char) → List Char → Option (List Part)
  | none, [] => some []
  | none, c :: rest =>
      if c = '"' ∨ c = '\'' then partsFrom? (some (c, [])) rest
      else (partsFrom? none rest).map (.outside c :: ·)
  | some _, [] => none
  | some (quote, content), [c] => if c = quote then some [.quoted quote content] else none
  | some (quote, content), c :: next :: rest =>
      if c = quote then
        if next = quote then partsFrom? (some (quote, content ++ [c])) rest
        else (partsFrom? none (next :: rest)).map (.quoted quote content :: ·)
      else partsFrom? (some (quote, content ++ [c])) (next :: rest)

/-- The parts of a text, if it ends outside quotes. -/
def parts? (text : List Char) : Option (List Part) := partsFrom? none text

theorem partsFrom?_inside {quote c : Char} (differs : c ≠ quote) (content rest : List Char) :
    partsFrom? (some (quote, content)) (c :: rest) =
      partsFrom? (some (quote, content ++ [c])) rest := by
  cases rest <;> simp [partsFrom?, differs]

/-- Inside quotes the reader takes in a doubled text up to its closing quote. -/
theorem partsFrom?_double {quote : Char} (content text : List Char) {rest : List Char}
    (closed : rest.head? ≠ some quote) :
    partsFrom? (some (quote, content)) (double quote text ++ quote :: rest) =
      (parts? rest).map (.quoted quote (content ++ text) :: ·) := by
  induction text generalizing content with
  | nil =>
      cases rest with
      | nil => simp [double, partsFrom?, parts?]
      | cons next rest =>
          have differs : next ≠ quote := by simpa using closed
          simp [double, partsFrom?, parts?, differs]
  | cons c text ih =>
      by_cases same : c = quote
      · -- The two quotes are taken in as one, and the reader is inside as before.
        subst same
        simpa [double, partsFrom?] using ih (content ++ [c])
      · rw [double, if_neg same, List.cons_append, partsFrom?_inside same, ih]
        simp

/-- A quoted text is one part, unless the same quote follows immediately. -/
theorem parts?_enclose {quote : Char} (isQuote : quote = '"' ∨ quote = '\'')
    (text : List Char) {rest : List Char} (closed : rest.head? ≠ some quote) :
    parts? (enclose quote text ++ rest) = (parts? rest).map (.quoted quote text :: ·) := by
  have inside := partsFrom?_double [] text closed
  simpa [parts?, enclose, partsFrom?, isQuote] using inside

/-- What has no quotes is read character by character. -/
theorem parts?_unquoted {text : List Char} (unquoted : ∀ c ∈ text, c ≠ '"' ∧ c ≠ '\'')
    (rest : List Char) : parts? (text ++ rest) = (parts? rest).map (text.map .outside ++ ·) := by
  induction text with
  | nil => simp
  | cons c text ih =>
      obtain ⟨⟨notDouble, notSingle⟩, others⟩ := List.forall_mem_cons.mp unquoted
      have following := ih others
      rw [parts?] at following ⊢
      rw [List.cons_append, partsFrom?, if_neg (by simp [notDouble, notSingle]), following,
        Option.map_map]
      rfl

/-! ### The outline -/

/-- What stands outside quotes, with the opening quote in the place of every quoted text. The
reader starts outside quotes, or inside the given ones. -/
def outlineFrom? : Option Char → List Char → Option (List Char)
  | none, [] => some []
  | none, c :: rest =>
      if c = '"' ∨ c = '\'' then (outlineFrom? (some c) rest).map (c :: ·)
      else (outlineFrom? none rest).map (c :: ·)
  | some _, [] => none
  | some quote, [c] => if c = quote then some [] else none
  | some quote, c :: next :: rest =>
      if c = quote then
        if next = quote then outlineFrom? (some quote) rest else outlineFrom? none (next :: rest)
      else outlineFrom? (some quote) (next :: rest)

/-- The outline of a text, if it ends outside quotes. -/
def outline? (text : List Char) : Option (List Char) := outlineFrom? none text

/-- What is seen of a part: a character, or the opening quote. -/
def Part.mark : Part → Char
  | outside c => c
  | quoted quote _ => quote

theorem map_mark_partsFrom? (state : Option (Char × List Char)) (text : List Char) :
    (partsFrom? state text).map (·.map Part.mark) =
      (outlineFrom? (state.map (·.1)) text).map ((state.map (·.1)).toList ++ ·) := by
  induction state, text using partsFrom?.induct with
  | case1 => rfl
  | case2 c rest isQuote ih =>
      simpa [partsFrom?, outlineFrom?, isQuote, Function.comp_def] using ih
  | case3 c rest noQuote ih =>
      have read := congrArg (Option.map (c :: ·)) ih
      simpa [partsFrom?, outlineFrom?, noQuote, Part.mark, Function.comp_def] using read
  | case4 state => rfl
  | case5 content quote => simp [partsFrom?, outlineFrom?, Part.mark]
  | case6 quote content c noQuote => simp [partsFrom?, outlineFrom?, noQuote]
  | case7 content quote rest ih => simpa [partsFrom?, outlineFrom?] using ih
  | case8 content quote next rest differs ih =>
      have read := congrArg (Option.map (quote :: ·)) ih
      simpa [partsFrom?, outlineFrom?, differs, Part.mark, Function.comp_def] using read
  | case9 quote content c next rest differs ih =>
      simpa [partsFrom?, outlineFrom?, differs] using ih

/-- **The outline of a text is what is seen of its parts.** -/
theorem outline?_eq_map_parts? (text : List Char) :
    outline? text = (parts? text).map (·.map Part.mark) := by
  rw [parts?, map_mark_partsFrom?]
  simp [outline?]

/-- A text that goes on with no quote. -/
def Apart (rest : List Char) : Prop := ∀ c, rest.head? = some c → c ≠ '"' ∧ c ≠ '\''

/-- The outline of one statement: its only semicolon stands at the end, and nothing in it starts
a comment. -/
structure IsSingle (outline : List Char) : Prop where
  closed : ∃ body, outline = body ++ [';'] ∧ ';' ∉ body
  noLineComment : ¬ ['-', '-'] <:+: outline
  noBlockComment : ¬ ['/', '*'] <:+: outline

end Quoted

/-! ## Minus signs -/

/-- No two minus signs meet, and none stands at the end. -/
def Lone (text : List Char) : Prop :=
  text.IsChain (fun c next => c = '-' → next ≠ '-') ∧ text.getLast? ≠ some '-'

theorem lone_of_notMem {text : List Char} (unsigned : '-' ∉ text) : Lone text := by
  refine ⟨?_, fun last => unsigned (List.mem_of_getLast? last)⟩
  exact List.Pairwise.isChain (List.pairwise_of_forall_mem_list fun c member _ _ same =>
    absurd member (same ▸ unsigned))

theorem Lone.append {first second : List Char} (one : Lone first) (other : Lone second) :
    Lone (first ++ second) := by
  refine ⟨List.isChain_append.mpr ⟨one.1, other.1, ?_⟩, ?_⟩
  · intro c last next _ same
    exact absurd (same ▸ last) one.2
  · cases second with
    | nil => simpa using one.2
    | cons c rest => simpa using other.2

theorem IsSigned.lone {text : List Char} (signed : IsSigned text) : Lone text := by
  obtain ⟨digits, either, nonempty, each⟩ := signed
  have unsigned : '-' ∉ digits := fun member => absurd (each _ member) (by decide)
  rcases either with rfl | rfl
  · exact lone_of_notMem unsigned
  · obtain ⟨first, others, rfl⟩ := List.exists_cons_of_ne_nil nonempty
    have rest := lone_of_notMem unsigned
    refine ⟨List.isChain_cons_cons.mpr ⟨fun _ same => ?_, rest.1⟩, by simpa using rest.2⟩
    exact unsigned (by simp [same])

theorem Lone.noPair {text : List Char} (lone : Lone text) : ¬ ['-', '-'] <:+: text := by
  rintro ⟨before, after, rfl⟩
  have pair := lone.1.left_of_append.right_of_append
  simp at pair

/-! ## Parts and outlines of fragments -/

namespace Fragment

/-- The parts of the text of a fragment. -/
def parts : Fragment → List Quoted.Part
  | word text => text.toList.map .outside
  | identifier name => [.quoted '"' name.toList]
  | inline (.text content) => [.quoted '\'' content.toList]
  | inline (.blob bytes) => [.outside 'X', .quoted '\'' (bytes.flatMap Stored.hexByte)]
  | inline value => value.literal.map .outside
  | bound _ => [.outside '?']

/-- What is seen of a fragment outside quotes. -/
def outline : Fragment → List Char
  | word text => text.toList
  | identifier _ => ['"']
  | inline (.text _) => ['\'']
  | inline (.blob _) => ['X', '\'']
  | inline value => value.literal
  | bound _ => ['?']

/-- Whether fragments start with a word, if there are any. -/
def startsWithWord : List Fragment → Bool
  | [] => true
  | word text :: _ => text ≠ ""
  | _ => false

/-- Whether every name and every value has a word behind it, if anything. -/
def parted : List Fragment → Bool
  | [] => true
  | word _ :: rest => parted rest
  | _ :: rest => startsWithWord rest && parted rest

variable {dialect : Dialect}

theorem isNeutral_of_isPlain {text : String} (plain : (word text).isPlain = true) :
    ∀ c ∈ text.toList, Compiled.IsNeutral c :=
  fun c member => Compiled.isNeutral_of_isPlainChar (List.all_eq_true.mp plain c member)

theorem parts?_neutral {text : List Char} (neutral : ∀ c ∈ text, Compiled.IsNeutral c)
    (rest : List Char) :
    Quoted.parts? (text ++ rest) = (Quoted.parts? rest).map (text.map .outside ++ ·) :=
  Quoted.parts?_unquoted (fun c member => ⟨(neutral c member).1, (neutral c member).2.1⟩) rest

/-- The parts of a fragment are read before anything that does not start with a quote. -/
theorem parts?_append (standard : dialect.IsStandard) {fragment : Fragment}
    (plain : fragment.isPlain = true) {rest : List Char} (apart : Quoted.Apart rest) :
    Quoted.parts? (fragment.chars dialect ++ rest) =
      (Quoted.parts? rest).map (fragment.parts ++ ·) := by
  have number {text : List Char} (signed : IsSigned text) :
      ∀ c ∈ text, Compiled.IsNeutral c :=
    fun c member => Compiled.isNeutral_of_isNumberChar (signed.isNumberChar_of_mem member)
  cases fragment with
  | word text => exact parts?_neutral (isNeutral_of_isPlain plain) rest
  | identifier name =>
      rw [chars, Dialect.identifier, standard.quote]
      exact Quoted.parts?_enclose (.inl rfl) _ fun same => (apart _ same).1 rfl
  | bound value =>
      rw [chars, standard.placeholder]
      exact Quoted.parts?_unquoted (by simp) rest
  | inline value =>
      cases value with
      | null =>
          have letters : (word "NULL").isPlain = true := rfl
          exact parts?_neutral (isNeutral_of_isPlain letters) rest
      | int n => exact parts?_neutral (number (isSigned_integerDigits _)) rest
      | float x => exact parts?_neutral (number x.isSigned_plainText) rest
      | text content => exact Quoted.parts?_enclose (.inr rfl) _ fun same => (apart _ same).2 rfl
      | blob bytes =>
          have digits := Quoted.parts?_enclose (.inr rfl) (bytes.flatMap Stored.hexByte)
            fun same => (apart _ same).2 rfl
          have mark : Quoted.parts? (['X'] ++
              (Quoted.enclose '\'' (bytes.flatMap Stored.hexByte) ++ rest)) = _ :=
            Quoted.parts?_unquoted (by simp) _
          rw [digits, Option.map_map] at mark
          exact mark

/-- A text that starts with a plain word starts with no quote. -/
theorem apart_chars {fragments : List Fragment} (starts : startsWithWord fragments = true)
    (plain : allPlain fragments = true) {rest : List Char} (apart : Quoted.Apart rest) :
    Quoted.Apart (fragments.flatMap (·.chars dialect) ++ rest) := by
  intro c head
  cases fragments with
  | nil => exact apart c head
  | cons first others =>
      cases first with
      | word text =>
          have spelled : text.toList ≠ [] := by simpa [startsWithWord] using starts
          obtain ⟨first, letters, same⟩ := List.exists_cons_of_ne_nil spelled
          rw [allPlain_cons, Bool.and_eq_true] at plain
          have neutral := isNeutral_of_isPlain plain.1 first (by simp [same])
          obtain rfl : first = c := by simpa [chars, same] using head
          exact ⟨neutral.1, neutral.2.1⟩
      | identifier _ => cases starts
      | inline _ => cases starts
      | bound _ => cases starts

/-- **The parts of a text are those of its fragments**, as long as they are plain and parted by
words. -/
theorem parts?_chars (standard : dialect.IsStandard) {fragments : List Fragment}
    (plain : allPlain fragments = true) (isParted : parted fragments = true) {rest : List Char}
    (apart : Quoted.Apart rest) :
    Quoted.parts? (fragments.flatMap (·.chars dialect) ++ rest) =
      (Quoted.parts? rest).map (fragments.flatMap parts ++ ·) := by
  induction fragments with
  | nil => simp
  | cons first others ih =>
      rw [allPlain_cons, Bool.and_eq_true] at plain
      have read : parted others = true ∧
          Quoted.parts? (first.chars dialect ++ (others.flatMap (·.chars dialect) ++ rest)) =
            (Quoted.parts? (others.flatMap (·.chars dialect) ++ rest)).map
              (first.parts ++ ·) := by
        -- A quote may follow a word. Everything else has a word behind it.
        cases first with
        | word text => exact ⟨isParted, parts?_neutral (isNeutral_of_isPlain plain.1) _⟩
        | _ =>
            simp only [parted, Bool.and_eq_true] at isParted
            exact ⟨isParted.2,
              parts?_append standard plain.1 (apart_chars isParted.1 plain.2 apart)⟩
      rw [List.flatMap_cons, List.append_assoc, read.2, ih plain.2 read.1, Option.map_map]
      simp [Function.comp_def]

/-- What is seen of the parts of a fragment is what is seen of the fragment. -/
theorem map_mark_parts (fragment : Fragment) :
    fragment.parts.map Quoted.Part.mark = fragment.outline := by
  have outside (text : List Char) :
      (text.map Quoted.Part.outside).map Quoted.Part.mark = text := by
    rw [List.map_map]
    exact List.map_id text
  cases fragment with
  | word text => exact outside text.toList
  | identifier name => rfl
  | bound value => rfl
  | inline value =>
      cases value with
      | null | int | float => exact outside _
      | text | blob => rfl

/-! ## The outline of a statement -/

/-- Whether a character may stand in the outline of a statement before its semicolon. -/
def isOutlineChar (c : Char) : Bool := isPlainChar c || ['"', '\'', '?', '-'].contains c

theorem isOutlineChar_of_isPlainChar {c : Char} (plain : isPlainChar c = true) :
    isOutlineChar c = true := by
  simp [isOutlineChar, plain]

theorem isOutlineChar_of_isNumberChar {c : Char} (number : isNumberChar c = true) :
    isOutlineChar c = true := by
  simp only [isNumberChar, isDigitOrPoint, Bool.or_eq_true, beq_iff_eq] at number
  rcases number with (letter | rfl) | rfl
  · exact isOutlineChar_of_isPlainChar (by simp [isPlainChar, letter])
  · rfl
  · rfl

theorem isOutlineChar_of_mem {fragment : Fragment} (plain : fragment.isPlain = true) {c : Char}
    (member : c ∈ fragment.outline) : isOutlineChar c = true := by
  have word {text : String} (plain : isPlainText text = true) (inText : c ∈ text.toList) :
      isOutlineChar c = true :=
    isOutlineChar_of_isPlainChar (List.all_eq_true.mp plain c inText)
  have among {marks : List Char} (each : marks.all isOutlineChar = true) (inMarks : c ∈ marks) :
      isOutlineChar c = true :=
    List.all_eq_true.mp each c inMarks
  cases fragment with
  | word text => exact word plain member
  | identifier name => exact among rfl member
  | bound value => exact among rfl member
  | inline value =>
      cases value with
      | null => exact among rfl member
      | int n =>
          exact isOutlineChar_of_isNumberChar
            ((isSigned_integerDigits _).isNumberChar_of_mem member)
      | float x =>
          exact isOutlineChar_of_isNumberChar (x.isSigned_plainText.isNumberChar_of_mem member)
      | text content => exact among rfl member
      | blob bytes => exact among rfl member

theorem lone_outline {fragment : Fragment} (plain : fragment.isPlain = true) :
    Lone fragment.outline := by
  cases fragment with
  | word text =>
      exact lone_of_notMem fun member =>
        absurd (List.all_eq_true.mp plain _ member) (by decide)
  | identifier name => exact lone_of_notMem (by simp [outline])
  | bound value => exact lone_of_notMem (by simp [outline])
  | inline value =>
      cases value with
      | null => exact lone_of_notMem (by simp [outline, Stored.literal])
      | int n => exact (isSigned_integerDigits _).lone
      | float x => exact x.isSigned_plainText.lone
      | text content => exact lone_of_notMem (by simp [outline])
      | blob bytes => exact lone_of_notMem (by simp [outline])

theorem lone_flatMap_outline {fragments : List Fragment} (plain : allPlain fragments = true) :
    Lone (fragments.flatMap outline) := by
  induction fragments with
  | nil => exact lone_of_notMem (by simp)
  | cons first others ih =>
      rw [allPlain_cons, Bool.and_eq_true] at plain
      exact (lone_outline plain.1).append (ih plain.2)

/-- **The outline of a closed list of fragments is that of one statement.** -/
theorem isSingle_outline {fragments : List Fragment} (closed : IsClosed fragments) :
    Quoted.IsSingle (fragments.flatMap outline) := by
  obtain ⟨body, closing, rfl, either, plain⟩ := closed
  obtain ⟨ending, same, endingPlain⟩ : ∃ ending, closing.toList = ending ++ [';'] ∧
      ending.all isOutlineChar = true := by
    rcases either with rfl | rfl
    · exact ⟨[], rfl, rfl⟩
    · exact ⟨[')'], rfl, rfl⟩
  have whole : (body ++ [word closing]).flatMap outline =
      body.flatMap outline ++ ending ++ [';'] := by
    simp [outline, same]
  have each : ∀ c ∈ body.flatMap outline ++ ending, isOutlineChar c = true := by
    intro c member
    rcases List.mem_append.mp member with inBody | inEnding
    · obtain ⟨fragment, inside, inFragment⟩ := List.mem_flatMap.mp inBody
      exact isOutlineChar_of_mem (List.all_eq_true.mp plain _ inside) inFragment
    · exact List.all_eq_true.mp endingPlain c inEnding
  rw [whole]
  refine ⟨⟨_, rfl, fun member => absurd (each _ member) (by decide)⟩, ?_, ?_⟩
  · have unsigned : '-' ∉ ending ++ [';'] := by
      rw [← same]
      rcases either with rfl | rfl <;> simp
    rw [List.append_assoc]
    exact ((lone_flatMap_outline plain).append (lone_of_notMem unsigned)).noPair
  · intro inside
    have slash : '/' ∈ body.flatMap outline ++ ending ++ [';'] := inside.subset (by simp)
    rcases List.mem_append.mp slash with inBody | last
    · exact absurd (each _ inBody) (by decide)
    · simp at last

end Fragment

end TypedSql
