import TriviaStore.Proofs.Except
import TriviaStore.Proofs.Tables.Keyed
import TriviaStore.Tables

/-! # When statements succeed

For every statement that changes rows, exactly when it is carried out and what it leaves. An insert
succeeds on complete values whose parent exists; an update or a delete that means no row succeeds,
counts none and changes nothing.
-/

namespace TriviaStore.Tables

variable {t t' : Tables} {ns : List Int} {u : Unit} {id : Int} {n : Nat}

theorem checkFit_eq_ok : checkFit ns = .ok u ↔ ∀ x ∈ ns, fits x = true := by
  unfold checkFit
  split <;> rename_i h <;> simpa using h

theorem require_eq_ok {α : Type} {column : Column} {a : Option α} {x : α} :
    require column a = .ok x ↔ a = some x := by
  cases a <;> simp [require]

theorem refuseIf_eq_ok {broken : Bool} {rule : Violation} :
    refuseIf broken rule = .ok u ↔ broken = false := by
  cases broken <;> simp [refuseIf]

theorem newId_eq_ok {ids : List Int} : newId ids = .ok id ↔ id = freshId ids ∧ fits id = true := by
  unfold newId
  split
  · simp only [Except.ok.injEq, eq_comm (b := id)]
    exact ⟨fun h => ⟨h, h ▸ ‹_›⟩, fun h => h.1⟩
  · simp only [reduceCtorEq, false_iff]
    rintro ⟨rfl, hf⟩
    exact absurd hf ‹_›

/-- A statement that means some rows is carried out; one that means none counts none. -/
theorem ite_any_eq_ok {α : Type} {l : List α} {p : α → Bool} {x : Except Failure (Nat × Tables)} :
    (if l.any p then x else pure (0, t)) = .ok (n, t') ↔
      ((∀ r ∈ l, p r = false) ∧ n = 0 ∧ t' = t) ∨ (∃ r ∈ l, p r = true) ∧ x = .ok (n, t') := by
  by_cases h : ∃ r ∈ l, p r = true
  · rw [if_pos (List.any_eq_true.mpr h)]
    have hn : ¬ ∀ r ∈ l, p r = false := by
      obtain ⟨r, hr, hp⟩ := h
      exact fun hn => by simp [hn r hr] at hp
    simp only [hn, h, false_and, true_and, false_or]
  · rw [if_neg (fun ha => h (List.any_eq_true.mp ha)), Except.pure_eq_ok, Prod.mk.injEq]
    have hn : ∀ r ∈ l, p r = false := fun r hr => Bool.eq_false_iff.mpr fun hp => h ⟨r, hr, hp⟩
    constructor
    · rintro ⟨rfl, rfl⟩
      exact .inl ⟨hn, rfl, rfl⟩
    · rintro (⟨_, rfl, rfl⟩ | ⟨hp, _⟩)
      · exact ⟨rfl, rfl⟩
      · exact absurd hp h

/-! ## Quizzes -/

theorem insertQuiz_eq_ok {title slug description : Option String} {createdAt : Int} :
    t.insertQuiz title slug description createdAt = .ok (id, t') ↔
      fits createdAt = true ∧ ∃ title' slug', title = some title' ∧ slug = some slug' ∧
        (∀ r ∈ t.quizzes, r.slug ≠ slug') ∧ id = freshId (t.quizzes.map (·.id)) ∧
        fits id = true ∧ t' = { t with
          quizzes := t.quizzes ++ [⟨id, title', slug', description.getD "", some createdAt⟩] } := by
  simp only [insertQuiz, Except.bind_eq_ok, checkFit_eq_ok, require_eq_ok, refuseIf_eq_ok, newId_eq_ok,
    Except.pure_eq_ok, List.mem_singleton, forall_eq, List.any_eq_false, beq_iff_eq, Prod.mk.injEq]
  constructor
  · rintro ⟨_, hf, title', ht, slug', hs, _, hn, _, ⟨hid, hfid⟩, rfl, rfl⟩
    exact ⟨hf, title', slug', ht, hs, hn, hid, hfid, rfl⟩
  · rintro ⟨hf, title', slug', ht, hs, hn, hid, hfid, rfl⟩
    exact ⟨(), hf, title', ht, slug', hs, (), hn, id, ⟨hid, hfid⟩, rfl, rfl⟩

theorem updateQuiz_eq_ok {title slug description : Option String} :
    t.updateQuiz id title slug description = .ok (n, t') ↔
      fits id = true ∧ (((∀ r ∈ t.quizzes, r.id ≠ id) ∧ n = 0 ∧ t' = t) ∨
        (∃ r ∈ t.quizzes, r.id = id) ∧ ∃ title' slug' description', title = some title' ∧
          slug = some slug' ∧ description = some description' ∧
          (∀ r ∈ t.quizzes, r.id ≠ id → r.slug ≠ slug') ∧ n = 1 ∧
          t' = { t with quizzes := t.quizzes.map fun r => if r.id = id then
            { r with title := title', slug := slug', description := description' } else r }) := by
  simp only [updateQuiz, Except.bind_eq_ok, checkFit_eq_ok, List.mem_singleton, forall_eq, exists_const,
    ite_any_eq_ok, require_eq_ok, refuseIf_eq_ok, Except.pure_eq_ok, beq_iff_eq, beq_eq_false_iff_ne,
    List.any_eq_false, Bool.and_eq_true, bne_iff_ne, not_and, Prod.mk.injEq]
  refine and_congr_right fun _ => or_congr_right (and_congr_right fun _ => ?_)
  constructor
  · rintro ⟨title', ht, slug', hs, description', hd, hu, rfl, rfl⟩
    exact ⟨title', slug', description', ht, hs, hd, hu, rfl, rfl⟩
  · rintro ⟨title', slug', description', ht, hs, hd, hu, rfl, rfl⟩
    exact ⟨title', ht, slug', hs, description', hd, hu, rfl, rfl⟩

/-! ## Questions -/

theorem insertQuestion_eq_ok {quizId : Int} {text imageUrl : Option String}
    {position : Option Int} :
    t.insertQuestion quizId text imageUrl position = .ok (id, t') ↔
      fits quizId = true ∧ ∃ position', position = some position' ∧ fits position' = true ∧
        (∃ r ∈ t.quizzes, r.id = quizId) ∧ id = freshId (t.questions.map (·.id)) ∧
        fits id = true ∧ t' = { t with
          questions := t.questions ++ [⟨id, quizId, text.getD "", imageUrl.getD "", position'⟩] } := by
  simp only [insertQuestion, Except.bind_eq_ok, checkFit_eq_ok, require_eq_ok, refuseIf_eq_ok,
    newId_eq_ok, Except.pure_eq_ok, List.mem_cons, forall_eq_or_imp, Option.mem_toList,
    Bool.not_eq_false', any_key_iff, exists_const, Prod.mk.injEq]
  constructor
  · rintro ⟨⟨hq, hf⟩, position', rfl, hp, _, ⟨hid, hfid⟩, rfl, rfl⟩
    exact ⟨hq, position', rfl, hf _ rfl, hp, hid, hfid, rfl⟩
  · rintro ⟨hq, position', rfl, hf, hp, hid, hfid, rfl⟩
    refine ⟨⟨hq, fun x hx => ?_⟩, position', rfl, hp, id, ⟨hid, hfid⟩, rfl, rfl⟩
    cases hx
    exact hf

theorem meansQuestion_iff {parent : Option Int} {r : QuestionRow} :
    meansQuestion id parent r = true ↔ r.id = id ∧ ∀ p ∈ parent, r.quizId = p := by
  cases parent with
  | none => simp [meansQuestion]
  | some p => simp [meansQuestion, @eq_comm _ p]

theorem updateQuestion_eq_ok {parent : Option Int} {text imageUrl : Option String}
    {position : Option Int} :
    t.updateQuestion id parent text imageUrl position = .ok (n, t') ↔
      (∀ x ∈ position.toList ++ id :: parent.toList, fits x = true) ∧
        (((∀ r ∈ t.questions, meansQuestion id parent r = false) ∧ n = 0 ∧ t' = t) ∨
        (∃ r ∈ t.questions, meansQuestion id parent r = true) ∧ ∃ text' imageUrl' position',
          text = some text' ∧ imageUrl = some imageUrl' ∧ position = some position' ∧ n = 1 ∧
          t' = { t with questions := t.questions.map fun r => if meansQuestion id parent r then
            { r with text := text', imageUrl := imageUrl', position := position' } else r }) := by
  simp only [updateQuestion, Except.bind_eq_ok, checkFit_eq_ok, exists_const, ite_any_eq_ok,
    require_eq_ok, Except.pure_eq_ok, Prod.mk.injEq]
  refine and_congr_right fun _ => or_congr_right (and_congr_right fun _ => ?_)
  constructor
  · rintro ⟨text', ht, imageUrl', hi, position', hp, rfl, rfl⟩
    exact ⟨text', imageUrl', position', ht, hi, hp, rfl, rfl⟩
  · rintro ⟨text', imageUrl', position', ht, hi, hp, rfl, rfl⟩
    exact ⟨text', ht, imageUrl', hi, position', hp, rfl, rfl⟩

theorem deleteQuestion_eq_ok :
    t.deleteQuestion id = .ok (n, t') ↔
      fits id = true ∧ (((∀ r ∈ t.questions, r.id ≠ id) ∧ n = 0 ∧ t' = t) ∨
        (∃ r ∈ t.questions, r.id = id) ∧ n = 1 ∧
          t' = { t with
            questions := t.questions.filter (·.id != id)
            choices := t.choices.filter (·.questionId != id) }) := by
  simp only [deleteQuestion, Except.bind_eq_ok, checkFit_eq_ok, List.mem_singleton, forall_eq,
    exists_const, ite_any_eq_ok, Except.pure_eq_ok, beq_iff_eq, beq_eq_false_iff_ne, Prod.mk.injEq]
  simp only [eq_comm]

/-! ## Choices -/

theorem insertChoice_eq_ok {questionId : Int} {text : Option String} {correct : Option Bool} :
    t.insertChoice questionId text correct = .ok (id, t') ↔
      fits questionId = true ∧ ∃ text' correct', text = some text' ∧ correct = some correct' ∧
        (∃ r ∈ t.questions, r.id = questionId) ∧ id = freshId (t.choices.map (·.id)) ∧
        fits id = true ∧ t' = { t with choices := t.choices ++ [⟨id, questionId, text', flag correct'⟩] } := by
  simp only [insertChoice, Except.bind_eq_ok, checkFit_eq_ok, require_eq_ok, refuseIf_eq_ok, newId_eq_ok,
    Except.pure_eq_ok, List.mem_singleton, forall_eq, Bool.not_eq_false', any_key_iff, exists_const,
    Prod.mk.injEq]
  refine and_congr_right fun _ => ?_
  constructor
  · rintro ⟨text', ht, correct', hc, hp, _, ⟨hid, hfid⟩, rfl, rfl⟩
    exact ⟨text', correct', ht, hc, hp, hid, hfid, rfl⟩
  · rintro ⟨text', correct', ht, hc, hp, hid, hfid, rfl⟩
    exact ⟨text', ht, correct', hc, hp, id, ⟨hid, hfid⟩, rfl, rfl⟩

theorem meansChoice_iff {parent : Option Int} {r : ChoiceRow} :
    meansChoice id parent r = true ↔ r.id = id ∧ ∀ p ∈ parent, r.questionId = p := by
  cases parent with
  | none => simp [meansChoice]
  | some p => simp [meansChoice, @eq_comm _ p]

theorem updateChoice_eq_ok {parent : Option Int} {text : Option String} {correct : Option Bool} :
    t.updateChoice id parent text correct = .ok (n, t') ↔
      (∀ x ∈ id :: parent.toList, fits x = true) ∧
        (((∀ r ∈ t.choices, meansChoice id parent r = false) ∧ n = 0 ∧ t' = t) ∨
        (∃ r ∈ t.choices, meansChoice id parent r = true) ∧ ∃ text' correct',
          text = some text' ∧ correct = some correct' ∧ n = 1 ∧
          t' = { t with choices := t.choices.map fun r => if meansChoice id parent r then
            { r with text := text', isCorrect := flag correct' } else r }) := by
  simp only [updateChoice, Except.bind_eq_ok, checkFit_eq_ok, exists_const, ite_any_eq_ok, require_eq_ok,
    Except.pure_eq_ok, Prod.mk.injEq]
  refine and_congr_right fun _ => or_congr_right (and_congr_right fun _ => ?_)
  constructor
  · rintro ⟨text', ht, correct', hc, rfl, rfl⟩
    exact ⟨text', correct', ht, hc, rfl, rfl⟩
  · rintro ⟨text', correct', ht, hc, rfl, rfl⟩
    exact ⟨text', ht, correct', hc, rfl, rfl⟩

theorem deleteChoice_eq_ok :
    t.deleteChoice id = .ok (n, t') ↔
      fits id = true ∧ (((∀ r ∈ t.choices, r.id ≠ id) ∧ n = 0 ∧ t' = t) ∨
        (∃ r ∈ t.choices, r.id = id) ∧ n = 1 ∧
          t' = { t with choices := t.choices.filter (·.id != id) }) := by
  simp only [deleteChoice, Except.bind_eq_ok, checkFit_eq_ok, List.mem_singleton, forall_eq,
    exists_const, ite_any_eq_ok, Except.pure_eq_ok, beq_iff_eq, beq_eq_false_iff_ne, Prod.mk.injEq]
  simp only [eq_comm]

end TriviaStore.Tables
