/-!
# Computations that may fail

When a chain of steps answers, every step has answered. `Outcome.answer` puts such a chain
together from the faults of its steps and from the result that it has without them.
-/

set_option autoImplicit false

namespace TypedSql.Outcome

variable {ε ε' α β : Type}

theorem bind_eq_ok {first : Except ε α} {next : α → Except ε β} {result : β} :
    first >>= next = .ok result ↔ ∃ value, first = .ok value ∧ next value = .ok result := by
  cases first <;> simp [bind, Except.bind]

/-- The last step of a chain only builds the result. -/
theorem bind_pure_eq_ok {first : Except ε α} {build : α → β} {result : β} :
    (first >>= fun value => pure (build value)) = .ok result ↔
      ∃ value, first = .ok value ∧ build value = result := by
  cases first <;> simp [bind, Except.bind, pure, Except.pure]

theorem map_eq_ok {step : Except ε α} {f : α → β} {result : β} :
    step.map f = .ok result ↔ ∃ value, step = .ok value ∧ f value = result := by
  cases step <;> simp [Except.map]

theorem mapError_eq_ok {step : Except ε α} {f : ε → ε'} {result : α} :
    step.mapError f = .ok result ↔ step = .ok result := by
  cases step with
  | ok value =>
      show Except.ok value = .ok result ↔ _
      simp
  | error cause => exact iff_of_false (by rintro ⟨⟩) (by rintro ⟨⟩)

theorem toOption_eq_some_iff {step : Except ε α} {result : α} :
    step.toOption = some result ↔ step = .ok result := by
  cases step <;> simp [Except.toOption]

/-! ## Steps over lists -/

section Lists

variable {step : α → Except ε β} {first : α} {rest : List α}

/-- A step over a list answers when it answers for the first member and for the others. -/
theorem mapM_cons_eq_ok {results : List β} :
    (first :: rest).mapM step = .ok results ↔
      ∃ result others, step first = .ok result ∧ rest.mapM step = .ok others ∧
        results = result :: others := by
  rw [List.mapM_cons]
  cases step first with
  | error => simp [bind, Except.bind]
  | ok result =>
      cases rest.mapM step with
      | error => simp [bind, Except.bind]
      | ok others => simp [bind, Except.bind, pure, Except.pure, eq_comm]

/-- The answer for a member is among the answers. -/
theorem exists_mem_of_mapM_eq_ok {members : List α} {results : List β} {member : α}
    (mapped : members.mapM step = .ok results) (inside : member ∈ members) :
    ∃ result ∈ results, step member = .ok result := by
  induction members generalizing results with
  | nil => cases inside
  | cons first rest ih =>
      obtain ⟨result, others, answered, mappedRest, rfl⟩ := mapM_cons_eq_ok.mp mapped
      rcases List.mem_cons.mp inside with rfl | behind
      · exact ⟨result, List.mem_cons_self, answered⟩
      · obtain ⟨other, among, otherAnswered⟩ := ih mappedRest behind
        exact ⟨other, List.mem_cons_of_mem _ among, otherAnswered⟩

/-- Where a step answers for a whole list, it answers for each member. -/
theorem exists_of_mapM_eq_ok {members : List α} {results : List β}
    (mapped : members.mapM step = .ok results) :
    ∀ member ∈ members, ∃ result, step member = .ok result := by
  intro member inside
  obtain ⟨result, -, answered⟩ := exists_mem_of_mapM_eq_ok mapped inside
  exact ⟨result, answered⟩

/-- What can be read off a member as well as off its answer can be read off both lists. -/
theorem flatMap_of_mapM_eq_ok {γ : Type} {f : α → List γ} {g : β → List γ}
    (agree : ∀ {member result}, step member = .ok result → g result = f member)
    {members : List α} {results : List β} (mapped : members.mapM step = .ok results) :
    results.flatMap g = members.flatMap f := by
  induction members generalizing results with
  | nil =>
      cases mapped
      rfl
  | cons first rest ih =>
      obtain ⟨result, others, answered, mappedRest, rfl⟩ := mapM_cons_eq_ok.mp mapped
      rw [List.flatMap_cons, List.flatMap_cons, agree answered, ih mappedRest]

/-- A step over a list finds results when it finds each of them for its member. -/
theorem mapM_eq_some_iff {step : α → Option β} {members : List α} {results : List β} :
    members.mapM step = some results ↔ members.map step = results.map some := by
  induction members generalizing results with
  | nil => cases results <;> simp
  | cons first rest ih =>
      rw [List.mapM_cons, List.map_cons]
      cases results with
      | nil => cases step first <;> cases rest.mapM step <;> simp
      | cons result others =>
          rw [List.map_cons, List.cons.injEq, ← ih]
          cases step first <;> cases rest.mapM step <;> simp

theorem mapM_append_eq_ok {later : List α} {results : List β} :
    (rest ++ later).mapM step = .ok results ↔
      ∃ before after, rest.mapM step = .ok before ∧ later.mapM step = .ok after ∧
        results = before ++ after := by
  rw [List.mapM_append]
  cases rest.mapM step with
  | error => simp [bind, Except.bind]
  | ok before =>
      cases later.mapM step with
      | error => simp [bind, Except.bind]
      | ok after => simp [bind, Except.bind, pure, Except.pure, eq_comm]

end Lists

/-! ## Faults in order

A computation that looks for faults one after another is known by the list of all its faults
and by the result that it has without them. A chain of such computations has their lists one
behind the other. -/

/-- The first of the faults, or the result if there is none. -/
def answer (faults : List ε) (result : α) : Except ε α :=
  match faults with
  | [] => .ok result
  | first :: _ => .error first

theorem answer_eq_ok_iff {faults : List ε} {result value : α} :
    answer faults result = .ok value ↔ faults = [] ∧ result = value := by
  cases faults <;> simp [answer]

theorem answer_eq_error_iff {faults : List ε} {result : α} {error : ε} :
    answer faults result = .error error ↔ faults.head? = some error := by
  cases faults <;> simp [answer]

/-- The faults of a second step come after those of the first. -/
theorem bind_answer {faults later : List ε} {value : α} {next : α → Except ε β} {result : β}
    (answers : next value = answer later result) :
    answer faults value >>= next = answer (faults ++ later) result := by
  cases faults with
  | nil => exact answers
  | cons first rest => rfl

theorem bind_pure_answer {faults : List ε} {value : α} {build : α → β} :
    (answer faults value >>= fun value => pure (build value)) = answer faults (build value) := by
  cases faults <;> rfl

theorem map_answer {faults : List ε} {value : α} {f : α → β} :
    (answer faults value).map f = answer faults (f value) := by
  cases faults <;> rfl

/-- The first of all faults belongs to the first member that has one. -/
theorem exists_first_faulty {faults : α → List ε} {members : List α} {error : ε}
    (first : (members.flatMap faults).head? = some error) :
    ∃ before member after, members = before ++ member :: after ∧
      (∀ earlier ∈ before, faults earlier = []) ∧ (faults member).head? = some error := by
  rw [List.head?_flatMap, List.findSome?_eq_some_iff] at first
  obtain ⟨before, member, after, split, here, faultless⟩ := first
  exact ⟨before, member, after, split,
    fun earlier inside => List.head?_eq_none_iff.mp (faultless earlier inside), here⟩

/-- A member without faulty members before it has the first of all faults. -/
theorem head?_flatMap_of_first {faults : α → List ε} {members : List α} {index : Nat} {member : α}
    {error : ε} (found : members[index]? = some member)
    (faultless : ∀ earlier ∈ members.take index, faults earlier = [])
    (here : (faults member).head? = some error) :
    (members.flatMap faults).head? = some error := by
  obtain ⟨inside, isMember⟩ := List.getElem?_eq_some_iff.mp found
  have split : members = members.take index ++ member :: members.drop (index + 1) := by
    rw [← isMember, ← List.drop_eq_getElem_cons inside, List.take_append_drop]
  rw [split, List.flatMap_append, List.flatMap_eq_nil_iff.mpr faultless, List.nil_append,
    List.flatMap_cons, List.head?_append, here]
  rfl

theorem mapError_answer {faults : List ε} {value : α} {f : ε → ε'} :
    (answer faults value).mapError f = answer (faults.map f) value := by
  cases faults <;> rfl

/-- A step over a list has the faults of all members, one member after the other. -/
theorem mapM_answer {step : α → Except ε β} {faults : α → List ε} {result : α → β}
    (answers : ∀ member, step member = answer (faults member) (result member))
    (members : List α) :
    members.mapM step = answer (members.flatMap faults) (members.map result) := by
  induction members with
  | nil => rfl
  | cons first rest ih =>
      rw [List.mapM_cons, answers, ih]
      exact bind_answer bind_pure_answer

/-- A check of all members has the faults of all members, one member after the other. -/
theorem forM_answer {check : α → Except ε Unit} {faults : α → List ε}
    (answers : ∀ member, check member = answer (faults member) ()) (members : List α) :
    members.forM check = answer (members.flatMap faults) () := by
  induction members with
  | nil => rfl
  | cons first rest ih =>
      show (check first >>= fun _ => rest.forM check) = _
      rw [answers]
      exact bind_answer ih

end TypedSql.Outcome
