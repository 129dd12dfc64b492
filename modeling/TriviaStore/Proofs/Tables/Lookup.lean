import TriviaStore.Proofs.Tables.Sound

/-! # Statements seen by id

The tables of a sound store as finite maps: what each statement that changes rows
sets, and what it leaves alone. A choice is seen under one question at a time, so that a deleted
question takes its choices out of sight.
-/

namespace TriviaStore.Tables

variable {t t' : Tables} {id p i : Int} {n : Nat}

/-- The quiz with an id. -/
def quizAt (t : Tables) (i : Int) : Option QuizRow := rowAt QuizRow.id t.quizzes i

/-- The question with an id. -/
def questionAt (t : Tables) (i : Int) : Option QuestionRow := rowAt QuestionRow.id t.questions i

/-- The choice with an id. -/
def choiceAt (t : Tables) (i : Int) : Option ChoiceRow := rowAt ChoiceRow.id t.choices i

/-- The choice with an id, if it is stored under a question. -/
def choiceUnder (t : Tables) (p i : Int) : Option ChoiceRow :=
  (t.choiceAt i).filter (·.questionId == p)

/-- The question with an id, if it is stored under a quiz. -/
def questionUnder (t : Tables) (p i : Int) : Option QuestionRow :=
  (t.questionAt i).filter (·.quizId == p)

theorem mem_quizzes (hs : t.Sound) {r : QuizRow} : r ∈ t.quizzes ↔ t.quizAt r.id = some r :=
  ⟨hs.quizzes.rowAt_of_mem, mem_of_rowAt⟩

theorem mem_questions (hs : t.Sound) {r : QuestionRow} :
    r ∈ t.questions ↔ t.questionAt r.id = some r :=
  ⟨hs.questions.rowAt_of_mem, mem_of_rowAt⟩

theorem mem_choices (hs : t.Sound) {r : ChoiceRow} :
    r ∈ t.choices ↔ t.choiceUnder r.questionId r.id = some r := by
  rw [choiceUnder, Option.filter_eq_some_iff]
  constructor
  · exact fun hr => ⟨hs.choices.rowAt_of_mem hr, by simp⟩
  · exact fun hr => mem_of_rowAt hr.1

/-! ## Reading -/

theorem checkFit_singleton (h : fits i = true) : checkFit [i] = .ok () :=
  checkFit_eq_ok.mpr fun x hx => by rwa [List.mem_singleton.mp hx]

theorem question?_ok (h : fits i = true) : t.question? i = .ok (t.questionAt i) :=
  Except.bind_eq_ok.mpr ⟨(), checkFit_singleton h, rfl⟩

theorem questionsOf_eq_ok {rows : List QuestionRow} :
    t.questionsOf p = .ok rows ↔ fits p = true ∧ rows = t.questions.filter (·.quizId == p) := by
  constructor
  · intro h
    obtain ⟨_, hfit, hrows⟩ := Except.bind_eq_ok.mp h
    exact ⟨checkFit_eq_ok.mp hfit p (List.mem_singleton_self p), (Except.pure_eq_ok.mp hrows).symm⟩
  · rintro ⟨hfit, rfl⟩
    exact Except.bind_eq_ok.mpr ⟨(), checkFit_singleton hfit, rfl⟩

theorem questionsOf_ok (h : fits p = true) :
    t.questionsOf p = .ok (t.questions.filter (·.quizId == p)) :=
  questionsOf_eq_ok.mpr ⟨h, rfl⟩

theorem choicesOf_eq_ok {rows : List ChoiceRow} :
    t.choicesOf p = .ok rows ↔ fits p = true ∧ rows = t.choices.filter (·.questionId == p) := by
  constructor
  · intro h
    obtain ⟨_, hfit, hrows⟩ := Except.bind_eq_ok.mp h
    exact ⟨checkFit_eq_ok.mp hfit p (List.mem_singleton_self p), (Except.pure_eq_ok.mp hrows).symm⟩
  · rintro ⟨hfit, rfl⟩
    exact Except.bind_eq_ok.mpr ⟨(), checkFit_singleton hfit, rfl⟩

theorem choicesOf_ok (h : fits p = true) :
    t.choicesOf p = .ok (t.choices.filter (·.questionId == p)) :=
  choicesOf_eq_ok.mpr ⟨h, rfl⟩

/-! ## Quizzes -/

theorem updateQuiz_at {title slug description : Option String} (hs : t.Sound) (hn : n ≠ 0)
    (h : t.updateQuiz id title slug description = .ok (n, t')) :
    ∃ title' slug' description' r, title = some title' ∧ slug = some slug' ∧
      description = some description' ∧ t'.questions = t.questions ∧ t'.choices = t.choices ∧
      t.quizAt id = some r ∧ ∀ i, t'.quizAt i = if i = id
        then some ⟨id, title', slug', description', r.createdAt⟩ else t.quizAt i := by
  obtain ⟨_, ⟨_, rfl, _⟩ | ⟨⟨r, hr, rfl⟩, title', slug', description', ht, hl, hd, _, _, rfl⟩⟩ :=
    updateQuiz_eq_ok.mp h
  · exact absurd rfl hn
  refine ⟨title', slug', description', r, ht, hl, hd, rfl, rfl, hs.quizzes.rowAt_of_mem hr,
    fun i => ?_⟩
  have ho := hs.quizzes.rowAt_overwrite (p := (·.id == r.id))
    (f := fun x => { x with title := title', slug := slug', description := description' })
    (fun _ => rfl) hr (by simp) (fun x hx => by simpa using hx) i
  simpa only [quizAt, beq_iff_eq] using ho

/-! ## Choices -/

section Choices

variable {text : Option String} {correct : Option Bool}

theorem insertChoice_at (h : t.insertChoice p text correct = .ok (id, t')) :
    ∃ text' correct', text = some text' ∧ correct = some correct' ∧
      t'.quizzes = t.quizzes ∧ t'.questions = t.questions ∧
      (∀ r i, t.choiceAt i = some r → i < id) ∧
      ∀ i, t'.choiceAt i = if i = id then some ⟨id, p, text', flag correct'⟩ else t.choiceAt i := by
  obtain ⟨_, text', correct', ht, hc, _, rfl, _, rfl⟩ := insertChoice_eq_ok.mp h
  refine ⟨text', correct', ht, hc, rfl, rfl, fun r i hr => ?_, fun i => ?_⟩
  · rw [← key_of_rowAt hr]
    exact lt_fresh_of_mem (mem_of_rowAt hr)
  · exact rowAt_append ChoiceRow.id rowAt_fresh i

theorem updateChoice_at (hs : t.Sound) (hn : n ≠ 0)
    (h : t.updateChoice id (some p) text correct = .ok (n, t')) :
    ∃ text' correct', text = some text' ∧ correct = some correct' ∧
      t'.quizzes = t.quizzes ∧ t'.questions = t.questions ∧
      (∃ r, t.choiceAt id = some r ∧ r.questionId = p) ∧
      ∀ i, t'.choiceAt i = if i = id then some ⟨id, p, text', flag correct'⟩ else t.choiceAt i := by
  obtain ⟨_, ⟨_, rfl, _⟩ | ⟨⟨r, hr, hp⟩, text', correct', ht, hc, _, rfl⟩⟩ :=
    updateChoice_eq_ok.mp h
  · exact absurd rfl hn
  obtain ⟨rfl, hq⟩ := meansChoice_iff.mp hp
  obtain rfl := hq p rfl
  refine ⟨text', correct', ht, hc, rfl, rfl, ⟨r, hs.choices.rowAt_of_mem hr, rfl⟩, fun i => ?_⟩
  exact hs.choices.rowAt_overwrite
    (f := fun r => { r with text := text', isCorrect := flag correct' })
    (fun _ => rfl) hr hp (fun x hx => (meansChoice_iff.mp hx).1) i

/-- A choice that is stored under the question can be overwritten there, if nothing is missing. -/
theorem updateChoice_of_row {r : ChoiceRow} (hr : t.choiceAt id = some r) (hq : r.questionId = p)
    (hid : fits id = true) (hp : fits p = true) (htext : text.isSome = true)
    (hcorrect : correct.isSome = true) :
    ∃ t', t.updateChoice id (some p) text correct = .ok (1, t') := by
  obtain ⟨text, rfl⟩ := Option.isSome_iff_exists.mp htext
  obtain ⟨correct, rfl⟩ := Option.isSome_iff_exists.mp hcorrect
  have hfits : ∀ x ∈ id :: (some p).toList, fits x = true := by simp [hid, hp]
  have hmeans : meansChoice id (some p) r = true :=
    meansChoice_iff.mpr ⟨key_of_rowAt hr, by simpa using hq⟩
  exact ⟨_, updateChoice_eq_ok.mpr
    ⟨hfits, .inr ⟨⟨r, mem_of_rowAt hr, hmeans⟩, text, correct, rfl, rfl, rfl, rfl⟩⟩⟩

theorem deleteChoice_at (hs : t.Sound) (hn : n ≠ 0) (h : t.deleteChoice id = .ok (n, t')) :
    t'.quizzes = t.quizzes ∧ t'.questions = t.questions ∧
      ∀ i, t'.choiceAt i = if i = id then none else t.choiceAt i := by
  obtain ⟨_, ⟨_, rfl, _⟩ | ⟨_, _, rfl⟩⟩ := deleteChoice_eq_ok.mp h
  · exact absurd rfl hn
  · exact ⟨rfl, rfl, hs.choices.rowAt_delete id⟩

theorem mem_choicesOf (hs : t.Sound) {rows : List ChoiceRow} (h : t.choicesOf p = .ok rows) :
    i ∈ rows.map (·.id) ↔ ∃ r, t.choiceAt i = some r ∧ r.questionId = p := by
  obtain ⟨_, rfl⟩ := choicesOf_eq_ok.mp h
  simp only [List.mem_map, List.mem_filter, beq_iff_eq, choiceAt, hs.choices.rowAt_eq_some]
  exact ⟨fun ⟨r, ⟨hr, hp⟩, hi⟩ => ⟨r, ⟨hr, hi⟩, hp⟩, fun ⟨r, ⟨hr, hi⟩, hp⟩ => ⟨r, ⟨hr, hp⟩, hi⟩⟩

end Choices

/-! ## Questions -/

section Questions

variable {text imageUrl : Option String} {position : Option Int}

theorem insertQuestion_at (h : t.insertQuestion p text imageUrl position = .ok (id, t')) :
    ∃ position', position = some position' ∧ t'.quizzes = t.quizzes ∧ t'.choices = t.choices ∧
      (∀ r i, t.questionAt i = some r → i < id) ∧
      ∀ i, t'.questionAt i = if i = id
        then some ⟨id, p, text.getD "", imageUrl.getD "", position'⟩ else t.questionAt i := by
  obtain ⟨_, position', hp, _, _, rfl, _, rfl⟩ := insertQuestion_eq_ok.mp h
  refine ⟨position', hp, rfl, rfl, fun r i hr => ?_, fun i => ?_⟩
  · rw [← key_of_rowAt hr]
    exact lt_fresh_of_mem (mem_of_rowAt hr)
  · exact rowAt_append QuestionRow.id rowAt_fresh i

theorem updateQuestion_at (hs : t.Sound) (hn : n ≠ 0)
    (h : t.updateQuestion id (some p) text imageUrl position = .ok (n, t')) :
    ∃ text' imageUrl' position', text = some text' ∧ imageUrl = some imageUrl' ∧
      position = some position' ∧ t'.quizzes = t.quizzes ∧ t'.choices = t.choices ∧
      (∃ r, t.questionAt id = some r ∧ r.quizId = p) ∧
      ∀ i, t'.questionAt i = if i = id
        then some ⟨id, p, text', imageUrl', position'⟩ else t.questionAt i := by
  obtain ⟨_, ⟨_, rfl, _⟩ | ⟨⟨r, hr, hm⟩, text', imageUrl', position', ht, hi, hp, _, rfl⟩⟩ :=
    updateQuestion_eq_ok.mp h
  · exact absurd rfl hn
  obtain ⟨rfl, hq⟩ := meansQuestion_iff.mp hm
  obtain rfl := hq p rfl
  refine ⟨text', imageUrl', position', ht, hi, hp, rfl, rfl,
    ⟨r, hs.questions.rowAt_of_mem hr, rfl⟩, fun i => ?_⟩
  exact hs.questions.rowAt_overwrite
    (f := fun r => { r with text := text', imageUrl := imageUrl', position := position' })
    (fun _ => rfl) hr hm (fun x hx => (meansQuestion_iff.mp hx).1) i

/-- A question that is stored under the quiz can be overwritten there, if nothing is missing. -/
theorem updateQuestion_of_row {r : QuestionRow} (hr : t.questionAt id = some r) (hq : r.quizId = p)
    (hfits : ∀ x ∈ position.toList ++ id :: (some p).toList, fits x = true)
    (htext : text.isSome = true) (himage : imageUrl.isSome = true)
    (hposition : position.isSome = true) :
    ∃ t', t.updateQuestion id (some p) text imageUrl position = .ok (1, t') := by
  obtain ⟨text, rfl⟩ := Option.isSome_iff_exists.mp htext
  obtain ⟨imageUrl, rfl⟩ := Option.isSome_iff_exists.mp himage
  obtain ⟨position, rfl⟩ := Option.isSome_iff_exists.mp hposition
  have hmeans : meansQuestion id (some p) r = true :=
    meansQuestion_iff.mpr ⟨key_of_rowAt hr, by simpa using hq⟩
  exact ⟨_, updateQuestion_eq_ok.mpr ⟨hfits, .inr ⟨⟨r, mem_of_rowAt hr, hmeans⟩, text, imageUrl,
    position, rfl, rfl, rfl, rfl, rfl⟩⟩⟩

/-- Overwriting a question, under whatever quiz it is, leaves the others. -/
theorem updateQuestion_others {parent : Option Int} (hs : t.Sound)
    (h : t.updateQuestion id parent text imageUrl position = .ok (n, t')) :
    t'.quizzes = t.quizzes ∧ t'.choices = t.choices ∧
      ∀ i, i ≠ id → t'.questionAt i = t.questionAt i := by
  obtain ⟨_, ⟨_, _, rfl⟩ | ⟨⟨r, hr, hm⟩, text', imageUrl', position', _, _, _, _, rfl⟩⟩ :=
    updateQuestion_eq_ok.mp h
  · exact ⟨rfl, rfl, fun _ _ => rfl⟩
  obtain ⟨rfl, _⟩ := meansQuestion_iff.mp hm
  refine ⟨rfl, rfl, fun i hi => ?_⟩
  have ho := hs.questions.rowAt_overwrite
    (f := fun r => { r with text := text', imageUrl := imageUrl', position := position' })
    (fun _ => rfl) hr hm (fun x hx => (meansQuestion_iff.mp hx).1) i
  exact ho.trans (if_neg hi)

/-- A question is deleted with every choice that was to be seen under it. -/
theorem deleteQuestion_at (hs : t.Sound) (hn : n ≠ 0) (h : t.deleteQuestion id = .ok (n, t')) :
    t'.quizzes = t.quizzes ∧ (∀ i, t'.questionAt i = if i = id then none else t.questionAt i) ∧
      ∀ q i, t'.choiceUnder q i = if q = id then none else t.choiceUnder q i := by
  obtain ⟨_, ⟨_, rfl, _⟩ | ⟨_, _, rfl⟩⟩ := deleteQuestion_eq_ok.mp h
  · exact absurd rfl hn
  refine ⟨rfl, hs.questions.rowAt_delete id, fun q i => ?_⟩
  unfold choiceUnder choiceAt
  rw [hs.choices.rowAt_filter, Option.filter_filter]
  split
  · subst id
    simp [bne]
  · congr 1
    funext r
    by_cases hr : r.questionId = q <;> simp_all

theorem mem_questionsOf (hs : t.Sound) {rows : List QuestionRow} (h : t.questionsOf p = .ok rows) :
    i ∈ rows.map (·.id) ↔ ∃ r, t.questionAt i = some r ∧ r.quizId = p := by
  obtain ⟨_, rfl⟩ := questionsOf_eq_ok.mp h
  simp only [List.mem_map, List.mem_filter, beq_iff_eq, questionAt, hs.questions.rowAt_eq_some]
  exact ⟨fun ⟨r, ⟨hr, hp⟩, hi⟩ => ⟨r, ⟨hr, hi⟩, hp⟩, fun ⟨r, ⟨hr, hi⟩, hp⟩ => ⟨r, ⟨hr, hp⟩, hi⟩⟩

end Questions

end TriviaStore.Tables
