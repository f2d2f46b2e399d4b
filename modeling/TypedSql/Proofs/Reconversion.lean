import TypedSql.Proofs.Separators

/-!
# Names that are converted again

A name in snake case is meant to stay as it is when it is converted again. It does so unless it
has a capital without a small letter: `ℂ` is in upper case and is its own lower case form, so it
is still a capital in the converted name, behind neighbours that have been lowered.

`overlooks` finds such a capital in the name itself: it starts no word there, and does so once the
letter before it or the letter behind it is lowered. A second conversion changes exactly the names
that have one, and a third one changes no name (`snakeCase_settles`).
-/

set_option autoImplicit false

namespace TypedSql

namespace SnakeCase

open LetterCase

/-! ## Capitals that are overlooked -/

/-- Whether a character is a capital that lowering leaves as it is, such as `ℂ`. -/
def isUnpaired (c : Char) : Bool := isUpper c && lower c == [c]

/-- Whether the lowered form of a character ends in lower case. -/
def endsSmall (c : Char) : Bool := (lower c).getLast?.any isLower

/-- Whether the lowered form of a character begins in lower case. -/
def startsSmall (c : Char) : Bool := (lower c).head?.any isLower

/-- Whether a letter in lower case follows a capital in the converted name. -/
def smallFollows (capital : Char) : List Char → Bool
  | [] => false
  | next :: rest => startsSmall next && !startsWord capital next rest.head?

/-- Whether a capital starts no word, and does so between its neighbours in the converted name. -/
def isOverlooked (previous capital : Char) (after : List Char) : Bool :=
  isUnpaired capital && !startsWord previous capital after.head? &&
    (endsSmall previous || isUnpaired previous && smallFollows capital after)

/-- Whether some capital of a name is overlooked. -/
def overlooks : List Char → Bool
  | previous :: current :: after =>
      isOverlooked previous current after || overlooks (current :: after)
  | _ => false

/-! ## What becomes of the neighbours -/

theorem exists_getLast?_lower (c : Char) : ∃ last, (lower c).getLast? = some last :=
  Option.ne_none_iff_exists'.mp (mt List.getLast?_eq_none_iff.mp (lower_ne_nil c))

theorem isUnpaired_iff {c : Char} : isUnpaired c = true ↔ isUpper c = true ∧ lower c = [c] := by
  simp [isUnpaired]

/-- The last character of a lowered form is a capital only if nothing was lowered. -/
theorem isUpper_last {c last : Char} (ends : (lower c).getLast? = some last) :
    isUpper last = isUnpaired c := by
  rw [Bool.eq_iff_iff, isUnpaired_iff]
  constructor
  · intro large
    obtain ⟨rfl, same⟩ := eq_of_mem_lower (List.mem_of_getLast? ends) (.inl large)
    exact ⟨large, same⟩
  · rintro ⟨large, same⟩
    rw [same] at ends
    exact Option.some.inj ends ▸ large

/-- Whether lower case follows in the converted name is seen from the next character. -/
theorem any_isLower_head?_convertAfter (current : Char) (after : List Char) :
    (convertAfter (some current) after).head?.any isLower = smallFollows current after := by
  cases after with
  | nil => rfl
  | cons next rest =>
      obtain ⟨first, others, form⟩ := List.exists_cons_of_ne_nil (lower_ne_nil next)
      cases starts : startsWord current next rest.head? <;>
        simp [convertAfter, separator, smallFollows, startsSmall, starts, form, isLower_underscore]

variable {previous last current : Char} {after : List Char}

/-- **A capital that starts no word is overlooked if it starts one between its neighbours in the
converted name.** -/
theorem startsWord_converted (ends : (lower previous).getLast? = some last)
    (unpaired : isUnpaired current = true)
    (joined : startsWord previous current after.head? = false) :
    startsWord last current (convertAfter (some current) after).head? =
      isOverlooked previous current after := by
  have large : isUpper current = true := (isUnpaired_iff.mp unpaired).1
  have noDigit : last.isDigit = false := by
    rw [Bool.eq_false_iff, ne_eq]
    intro digit
    have early : last.toNat ≤ 96 := by
      have range : '0'.val ≤ last.val ∧ last.val ≤ '9'.val := by simpa [Char.isDigit] using digit
      exact Nat.le_trans (UInt32.le_iff_toNat_le.mp range.2) (by decide)
    obtain ⟨rfl, -⟩ := eq_of_mem_lower (List.mem_of_getLast? ends) (.inr early)
    simp [startsWord, large, digit] at joined
  have small : isLower last = endsSmall previous := by
    rw [endsSmall, ends]
    rfl
  rw [startsWord, any_isLower_head?_convertAfter, isOverlooked, large, noDigit, small,
    isUpper_last ends, unpaired, joined]
  simp

/-! ## Converting a converted name -/

theorem separator_none (current : Char) (next : Option Char) : separator none current next = [] :=
  rfl

/-- Characters that are no capitals and are not lowered are written as they are. -/
theorem convertAfter_append_of_small (before : Option Char) {word : List Char} (text : List Char)
    (small : ∀ c ∈ word, isUpper c = false ∧ lower c = [c]) :
    convertAfter before (word ++ text) =
      word ++ convertAfter (word.getLast?.or before) text := by
  induction word generalizing before with
  | nil => rfl
  | cons c word ih =>
      obtain ⟨notUpper, same⟩ := small c List.mem_cons_self
      have joined : separator before c (word ++ text).head? = [] := by
        cases before <;> simp [separator, startsWord_of_not_isUpper notUpper]
      rw [List.cons_append, convertAfter, joined, same,
        ih (some c) fun d member => small d (List.mem_cons_of_mem _ member),
        List.getLast?_cons, Option.or_some, Option.some_or]
      rfl

/-- What a character is lowered to is written as it is, behind a separator at most if the
character is a capital that was not lowered. -/
theorem convertAfter_lower_append (before : Option Char) (c : Char) (text : List Char) :
    convertAfter before (lower c ++ text) =
      (if isUnpaired c then separator before c text.head? else []) ++
        (lower c ++ convertAfter (lower c).getLast? text) := by
  by_cases unpaired : isUnpaired c = true
  · have same := (isUnpaired_iff.mp unpaired).2
    rw [if_pos unpaired, same, List.singleton_append, convertAfter, same, List.append_assoc]
    rfl
  · rw [if_neg unpaired, List.nil_append, convertAfter_append_of_small]
    · obtain ⟨last, ends⟩ := exists_getLast?_lower c
      rw [ends]
      rfl
    · intro d member
      refine ⟨?_, lower_of_mem_lower member⟩
      rw [Bool.eq_false_iff, ne_eq]
      intro large
      obtain ⟨rfl, same⟩ := eq_of_mem_lower member (.inl large)
      exact unpaired (isUnpaired_iff.mpr ⟨large, same⟩)

/-- The characters behind `previous` are converted again behind what it is lowered to. -/
theorem reconvertAfter_iff (ends : (lower previous).getLast? = some last) (rest : List Char) :
    convertAfter (some last) (convertAfter (some previous) rest) =
        convertAfter (some previous) rest ↔
      overlooks (previous :: rest) = false := by
  induction rest generalizing previous last with
  | nil => exact ⟨fun _ => rfl, fun _ => rfl⟩
  | cons c after ih =>
      have settles : convertAfter (lower c).getLast? (convertAfter (some c) after) =
          convertAfter (some c) after ↔ overlooks (c :: after) = false := by
        obtain ⟨end', ends'⟩ := exists_getLast?_lower c
        rw [ends']
        exact ih ends'
      rw [overlooks, Bool.or_eq_false_iff, ← settles]
      cases joined : startsWord previous c after.head? with
      | true =>
          -- The separator before `c` is kept, and nothing starts a word behind it.
          have written : separator (some previous) c after.head? = ['_'] := by
            simp [separator, joined]
          have noMiss : isOverlooked previous c after = false := by simp [isOverlooked, joined]
          rw [convertAfter, written, List.append_assoc, List.singleton_append,
            convertAfter_underscore_cons, convert, convertAfter_lower_append]
          simp [separator_none, noMiss]
      | false =>
          have written : separator (some previous) c after.head? = [] := by
            simp [separator, joined]
          rw [convertAfter, written, List.nil_append, convertAfter_lower_append]
          by_cases unpaired : isUnpaired c = true
          · have start := startsWord_converted ends unpaired joined
            obtain ⟨large, same⟩ := isUnpaired_iff.mp unpaired
            have different : c ≠ '_' := by
              rintro rfl
              rw [isUpper_underscore] at large
              cases large
            cases missed : isOverlooked previous c after <;>
              simp [separator, start, missed, same, unpaired, different.symm]
          · have noMiss : isOverlooked previous c after = false := by
              simp [isOverlooked, unpaired]
            simp [unpaired, noMiss]

/-- **A name in snake case stays when it is converted again, unless the name overlooks a
capital.** -/
theorem convert_convert_iff (name : List Char) :
    convert (convert name) = convert name ↔ overlooks name = false := by
  cases name with
  | nil => exact ⟨fun _ => rfl, fun _ => rfl⟩
  | cons c rest =>
      obtain ⟨last, ends⟩ := exists_getLast?_lower c
      rw [← reconvertAfter_iff ends, convert, convert, convertAfter, separator_none,
        List.nil_append, convertAfter_lower_append, separator_none, ends]
      simp

/-! ## Names that overlook nothing -/

theorem overlooks_of_each {name : List Char} (each : ∀ previous current after,
    previous :: current :: after <:+ name → isOverlooked previous current after = false) :
    overlooks name = false := by
  induction name with
  | nil => rfl
  | cons previous rest ih =>
      cases rest with
      | nil => rfl
      | cons current after =>
          rw [overlooks, each previous current after List.suffix_rfl, Bool.false_or]
          exact ih fun _ _ _ behind => each _ _ _ (behind.trans (List.suffix_cons previous _))

/-- A capital is overlooked only if it is unpaired. -/
theorem overlooks_of_paired {name : List Char} (paired : ∀ c ∈ name, isUnpaired c = false) :
    overlooks name = false := by
  apply overlooks_of_each
  intro previous current after ends
  have hasSmall := paired current (ends.mem (List.mem_cons_of_mem _ List.mem_cons_self))
  simp [isOverlooked, hasSmall]

/-- The ASCII capitals all have a small letter. -/
theorem isUnpaired_eq_false_of_ascii {c : Char} (ascii : c.toNat < 128) :
    isUnpaired c = false := by
  rw [Bool.eq_false_iff, ne_eq, isUnpaired_iff]
  rintro ⟨large, same⟩
  obtain ⟨range, member, inside⟩ := List.any_eq_true.mp large
  have bounds := Range.contains_iff.mp inside
  have early : uppercase.all fun range => decide (range.first < 128 →
      65 ≤ range.first ∧ range.last ≤ 90) := by
    decide +kernel
  have capitals := of_decide_eq_true (List.all_eq_true.mp early range member) (by omega)
  have capital : c.isUpper = true := isUpper_iff.mpr (by omega)
  have member_lower : c ∈ lower c := by
    rw [same]
    exact List.mem_cons_self
  rw [isUpper_eq_false_of_mem_lower member_lower] at capital
  cases capital

/-- Where nothing is left to lower, the neighbours of a capital are what they become. -/
theorem isOverlooked_of_settled (before : lower previous = [previous])
    (behind : ∀ c ∈ after, lower c = [c]) : isOverlooked previous current after = false := by
  rw [Bool.eq_false_iff, ne_eq]
  intro missed
  simp only [isOverlooked, Bool.and_eq_true, Bool.or_eq_true, Bool.not_eq_true'] at missed
  obtain ⟨⟨unpaired, joined⟩, small | ⟨unpaired', follows⟩⟩ := missed
  · have lowerCase : isLower previous = true := by simpa [endsSmall, before] using small
    simp [startsWord, (isUnpaired_iff.mp unpaired).1, lowerCase] at joined
  · cases after with
    | nil => cases follows
    | cons next rest =>
        have lowerCase : isLower next = true := by
          simp only [smallFollows, Bool.and_eq_true] at follows
          simpa [startsSmall, behind next List.mem_cons_self] using follows.1
        simp [startsWord, (isUnpaired_iff.mp unpaired).1, (isUnpaired_iff.mp unpaired').1,
          lowerCase] at joined

theorem overlooks_of_settled {name : List Char} (settled : ∀ c ∈ name, lower c = [c]) :
    overlooks name = false := by
  apply overlooks_of_each
  intro previous current after ends
  apply isOverlooked_of_settled (settled previous (ends.mem List.mem_cons_self))
  intro c member
  exact settled c (ends.mem (List.mem_cons_of_mem _ (List.mem_cons_of_mem _ member)))

theorem lower_of_mem_convert {name : List Char} {c : Char} (member : c ∈ convert name) :
    lower c = [c] := by
  by_cases underscore : c = '_'
  · rw [underscore, lower_underscore]
  · have kept : c ∈ withoutUnderscores (convert name) := by
      simp [withoutUnderscores, member, underscore]
    rw [convert, withoutUnderscores_convertAfter, withoutUnderscores, List.mem_filter, lowered,
      List.mem_flatMap] at kept
    obtain ⟨⟨d, -, from_d⟩, -⟩ := kept
    exact lower_of_mem_lower from_d

end SnakeCase

theorem snakeCase_snakeCase_iff (name : String) :
    snakeCase (snakeCase name) = snakeCase name ↔ SnakeCase.overlooks name.toList = false := by
  rw [← SnakeCase.convert_convert_iff, snakeCase, snakeCase, String.toList_ofList,
    String.ofList_inj]

/-- Names of ASCII characters stay when they are converted again. -/
theorem snakeCase_snakeCase_of_ascii {name : String} (ascii : ∀ c ∈ name.toList, c.toNat < 128) :
    snakeCase (snakeCase name) = snakeCase name :=
  (snakeCase_snakeCase_iff name).mpr (SnakeCase.overlooks_of_paired fun c member =>
    SnakeCase.isUnpaired_eq_false_of_ascii (ascii c member))

/-- **A second conversion changes exactly the names that overlook a capital, and a third one
changes none.** -/
theorem snakeCase_settles (name : String) :
    (snakeCase (snakeCase name) = snakeCase name ↔ SnakeCase.overlooks name.toList = false) ∧
      snakeCase (snakeCase (snakeCase name)) = snakeCase (snakeCase name) := by
  refine ⟨snakeCase_snakeCase_iff name, (snakeCase_snakeCase_iff (snakeCase name)).mpr ?_⟩
  rw [snakeCase, String.toList_ofList]
  exact SnakeCase.overlooks_of_settled fun c member => SnakeCase.lower_of_mem_convert member

/-- The capital `ℂ` starts no word behind `X`, but does so behind the `x` that `X` becomes. -/
theorem snakeCase_doubleStruck : snakeCase (snakeCase "Xℂ") ≠ snakeCase "Xℂ" := by
  decide +kernel

end TypedSql
