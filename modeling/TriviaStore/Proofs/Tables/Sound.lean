import TriviaStore.Proofs.Store.Keeps
import TriviaStore.Proofs.Tables.Statement

/-! # Sound tables

In a sound store ids are positive, within the database's range and ascending, slugs differ, every
question belongs to a stored quiz and every choice to a stored question, flags are 0 or 1, and every
creation time was taken from a clock. Every statement keeps this, the cascading deletion of a
question among them, so it holds of every store that can be reached.
-/

namespace TriviaStore

/-- What holds of the rows of a store at all times. -/
structure Tables.Sound (t : Tables) : Prop where
  quizzes : Ascending QuizRow.id t.quizzes
  questions : Ascending QuestionRow.id t.questions
  choices : Ascending ChoiceRow.id t.choices
  quizzes_pos : ∀ r ∈ t.quizzes, 0 < r.id
  questions_pos : ∀ r ∈ t.questions, 0 < r.id
  choices_pos : ∀ r ∈ t.choices, 0 < r.id
  quizzes_fit : ∀ r ∈ t.quizzes, fits r.id = true
  questions_fit : ∀ r ∈ t.questions, fits r.id = true
  choices_fit : ∀ r ∈ t.choices, fits r.id = true
  positions_fit : ∀ r ∈ t.questions, fits r.position = true
  slugs : t.quizzes.Pairwise fun a b => a.slug ≠ b.slug
  question_owner : ∀ r ∈ t.questions, ∃ q ∈ t.quizzes, q.id = r.quizId
  choice_owner : ∀ r ∈ t.choices, ∃ q ∈ t.questions, q.id = r.questionId
  flags : ∀ r ∈ t.choices, r.isCorrect = 0 ∨ r.isCorrect = 1
  created : ∀ r ∈ t.quizzes, ∃ clock now, Moment.now? clock = some now ∧
    r.createdAt = some now.toMillis

namespace Tables.Sound

variable {t t' : Tables} {id : Int} {n : Nat}

theorem empty : Tables.empty.Sound where
  quizzes := .nil
  questions := .nil
  choices := .nil
  quizzes_pos _ h := by cases h
  questions_pos _ h := by cases h
  choices_pos _ h := by cases h
  quizzes_fit _ h := by cases h
  questions_fit _ h := by cases h
  choices_fit _ h := by cases h
  positions_fit _ h := by cases h
  slugs := .nil
  question_owner _ h := by cases h
  choice_owner _ h := by cases h
  flags _ h := by cases h
  created _ h := by cases h

theorem flag_cases (b : Bool) : flag b = 0 ∨ flag b = 1 := by cases b <;> simp [flag]

theorem pos_append {α : Type} (key : α → Int) {l : List α} {r : α} (h : ∀ r ∈ l, 0 < key r)
    (hr : key r = freshId (l.map key)) : ∀ x ∈ l ++ [r], 0 < key x := by
  intro x hx
  rcases List.mem_append.mp hx with hx | hx
  · exact h x hx
  · rw [List.mem_singleton.mp hx, hr]
    refine freshId_pos fun i hi => ?_
    obtain ⟨y, hy, rfl⟩ := List.mem_map.mp hi
    exact h y hy

theorem all_append {α : Type} {P : α → Prop} {l : List α} {r : α} (h : ∀ x ∈ l, P x) (hr : P r) :
    ∀ x ∈ l ++ [r], P x := by
  intro x hx
  rcases List.mem_append.mp hx with hx | hx
  · exact h x hx
  · rwa [List.mem_singleton.mp hx]

theorem all_map {α : Type} {P : α → Prop} {l : List α} {f : α → α} (h : ∀ x ∈ l, P x)
    (hf : ∀ x, P x → P (f x)) : ∀ x ∈ l.map f, P x := by
  intro x hx
  obtain ⟨y, hy, rfl⟩ := List.mem_map.mp hx
  exact hf y (h y hy)

theorem insertQuiz {clock : Instant} {now : Moment} {title slug description : Option String}
    (hn : Moment.now? clock = some now) (h : t.Sound)
    (hi : t.insertQuiz title slug description now.toMillis = .ok (id, t')) : t'.Sound := by
  obtain ⟨_, title', slug', _, _, hs, hid, hfit, rfl⟩ := insertQuiz_eq_ok.mp hi
  refine { h with
    quizzes := h.quizzes.append hid, quizzes_pos := pos_append QuizRow.id h.quizzes_pos hid
    quizzes_fit := all_append h.quizzes_fit hfit, slugs := ?_, question_owner := fun r hr => ?_, created := fun r hr => ?_ }
  · refine List.pairwise_append.mpr ⟨h.slugs, List.pairwise_singleton _ _, fun a ha b hb => ?_⟩
    obtain rfl := List.mem_singleton.mp hb
    exact hs a ha
  · obtain ⟨q, hq, he⟩ := h.question_owner r hr
    exact ⟨q, List.mem_append_left _ hq, he⟩
  · rcases List.mem_append.mp hr with hr | hr
    · exact h.created r hr
    · obtain rfl := List.mem_singleton.mp hr
      exact ⟨clock, now, hn, rfl⟩

theorem updateQuiz {title slug description : Option String} (h : t.Sound)
    (hu : t.updateQuiz id title slug description = .ok (n, t')) : t'.Sound := by
  obtain ⟨_, ⟨_, _, rfl⟩ | ⟨_, title', slug', description', _, _, _, hs, _, rfl⟩⟩ :=
    updateQuiz_eq_ok.mp hu
  · exact h
  have hid : ∀ r : QuizRow, (if r.id = id then
      { r with title := title', slug := slug', description := description' } else r).id = r.id :=
    fun r => by split <;> rfl
  refine { h with
    quizzes := h.quizzes.map hid, quizzes_pos := all_map h.quizzes_pos fun r hr => by rwa [hid r]
    quizzes_fit := all_map h.quizzes_fit fun r hr => by rwa [hid r], slugs := ?_
    question_owner := fun r hr => ?_, created := fun r hr => ?_ }
  · refine List.pairwise_map.mpr ?_
    refine (List.Pairwise.and h.quizzes h.slugs).imp_of_mem fun {a b} ha hb hab => ?_
    obtain ⟨hlt, hne⟩ := hab
    split <;> split
    · omega
    · exact (hs b hb ‹_›).symm
    · exact hs a ha ‹_›
    · exact hne
  · obtain ⟨q, hq, he⟩ := h.question_owner r hr
    exact ⟨_, List.mem_map_of_mem hq, (hid q).trans he⟩
  · obtain ⟨r₀, hr₀, rfl⟩ := List.mem_map.mp hr
    obtain ⟨clock, now, hn, hc⟩ := h.created r₀ hr₀
    refine ⟨clock, now, hn, ?_⟩
    split <;> exact hc

theorem insertQuestion {quizId : Int} {text imageUrl : Option String} {position : Option Int}
    (h : t.Sound) (hi : t.insertQuestion quizId text imageUrl position = .ok (id, t')) :
    t'.Sound := by
  obtain ⟨_, position', _, hpos, hp, hid, hfit, rfl⟩ := insertQuestion_eq_ok.mp hi
  refine { h with
    questions := h.questions.append hid
    questions_pos := pos_append QuestionRow.id h.questions_pos hid
    questions_fit := all_append h.questions_fit hfit
    positions_fit := all_append h.positions_fit hpos
    question_owner := fun r hr => ?_, choice_owner := fun r hr => ?_ }
  · rcases List.mem_append.mp hr with hr | hr
    · exact h.question_owner r hr
    · obtain rfl := List.mem_singleton.mp hr
      exact hp
  · obtain ⟨q, hq, he⟩ := h.choice_owner r hr
    exact ⟨q, List.mem_append_left _ hq, he⟩

theorem updateQuestion {parent : Option Int} {text imageUrl : Option String}
    {position : Option Int} (h : t.Sound)
    (hu : t.updateQuestion id parent text imageUrl position = .ok (n, t')) : t'.Sound := by
  obtain ⟨hf, ⟨_, _, rfl⟩ | ⟨_, text', imageUrl', position', _, _, rfl, _, rfl⟩⟩ :=
    updateQuestion_eq_ok.mp hu
  · exact h
  have hpos : fits position' = true := hf position' (by simp)
  have hid : ∀ r : QuestionRow, (if meansQuestion id parent r then
      { r with text := text', imageUrl := imageUrl', position := position' } else r).id = r.id :=
    fun r => by split <;> rfl
  refine { h with
    questions := h.questions.map hid
    questions_pos := all_map h.questions_pos fun r hr => by rwa [hid r]
    questions_fit := all_map h.questions_fit fun r hr => by rwa [hid r]
    positions_fit := all_map h.positions_fit fun r hr => by split <;> assumption
    question_owner := fun r hr => ?_, choice_owner := fun r hr => ?_ }
  · obtain ⟨r₀, hr₀, rfl⟩ := List.mem_map.mp hr
    obtain ⟨q, hq, he⟩ := h.question_owner r₀ hr₀
    refine ⟨q, hq, ?_⟩
    split <;> exact he
  · obtain ⟨q, hq, he⟩ := h.choice_owner r hr
    exact ⟨_, List.mem_map_of_mem hq, (hid q).trans he⟩

/-- The choices of a deleted question go with it, so none is left without its question. -/
theorem deleteQuestion (h : t.Sound) (hd : t.deleteQuestion id = .ok (n, t')) : t'.Sound := by
  obtain ⟨_, ⟨_, _, rfl⟩ | ⟨_, _, rfl⟩⟩ := deleteQuestion_eq_ok.mp hd
  · exact h
  refine { h with
    questions := h.questions.filter _, choices := h.choices.filter _
    questions_pos := fun r hr => h.questions_pos r (List.mem_filter.mp hr).1
    choices_pos := fun r hr => h.choices_pos r (List.mem_filter.mp hr).1
    questions_fit := fun r hr => h.questions_fit r (List.mem_filter.mp hr).1
    choices_fit := fun r hr => h.choices_fit r (List.mem_filter.mp hr).1
    positions_fit := fun r hr => h.positions_fit r (List.mem_filter.mp hr).1
    question_owner := fun r hr => h.question_owner r (List.mem_filter.mp hr).1
    choice_owner := fun r hr => ?_
    flags := fun r hr => h.flags r (List.mem_filter.mp hr).1 }
  obtain ⟨hr, hne⟩ := List.mem_filter.mp hr
  obtain ⟨q, hq, he⟩ := h.choice_owner r hr
  exact ⟨q, List.mem_filter.mpr ⟨hq, by rwa [he]⟩, he⟩

theorem insertChoice {questionId : Int} {text : Option String} {correct : Option Bool}
    (h : t.Sound) (hi : t.insertChoice questionId text correct = .ok (id, t')) : t'.Sound := by
  obtain ⟨_, text', correct', _, _, hp, hid, hfit, rfl⟩ := insertChoice_eq_ok.mp hi
  refine { h with
    choices := h.choices.append hid, choices_pos := pos_append ChoiceRow.id h.choices_pos hid
    choices_fit := all_append h.choices_fit hfit
    choice_owner := fun r hr => ?_, flags := fun r hr => ?_ }
  · rcases List.mem_append.mp hr with hr | hr
    · exact h.choice_owner r hr
    · obtain rfl := List.mem_singleton.mp hr
      exact hp
  · rcases List.mem_append.mp hr with hr | hr
    · exact h.flags r hr
    · obtain rfl := List.mem_singleton.mp hr
      exact flag_cases correct'

theorem updateChoice {parent : Option Int} {text : Option String} {correct : Option Bool}
    (h : t.Sound) (hu : t.updateChoice id parent text correct = .ok (n, t')) : t'.Sound := by
  obtain ⟨_, ⟨_, _, rfl⟩ | ⟨_, text', correct', _, _, _, rfl⟩⟩ := updateChoice_eq_ok.mp hu
  · exact h
  have hid : ∀ r : ChoiceRow, (if meansChoice id parent r then
      { r with text := text', isCorrect := flag correct' } else r).id = r.id :=
    fun r => by split <;> rfl
  refine { h with
    choices := h.choices.map hid
    choices_pos := all_map h.choices_pos fun r hr => by rwa [hid r]
    choices_fit := all_map h.choices_fit fun r hr => by rwa [hid r]
    choice_owner := fun r hr => ?_, flags := fun r hr => ?_ }
  all_goals obtain ⟨r₀, hr₀, rfl⟩ := List.mem_map.mp hr
  · obtain ⟨q, hq, he⟩ := h.choice_owner r₀ hr₀
    refine ⟨q, hq, ?_⟩
    split <;> exact he
  · split
    · exact flag_cases correct'
    · exact h.flags r₀ hr₀

theorem deleteChoice (h : t.Sound) (hd : t.deleteChoice id = .ok (n, t')) : t'.Sound := by
  obtain ⟨_, ⟨_, _, rfl⟩ | ⟨_, _, rfl⟩⟩ := deleteChoice_eq_ok.mp hd
  · exact h
  · exact { h with
      choices := h.choices.filter _
      choices_pos := fun r hr => h.choices_pos r (List.mem_filter.mp hr).1
      choices_fit := fun r hr => h.choices_fit r (List.mem_filter.mp hr).1
      choice_owner := fun r hr => h.choice_owner r (List.mem_filter.mp hr).1
      flags := fun r hr => h.flags r (List.mem_filter.mp hr).1 }

theorem closed (clock : Instant) : Tables.ClosedAt clock Sound where
  insertQuiz hn h := h.insertQuiz hn
  updateQuiz h := h.updateQuiz
  insertQuestion h := h.insertQuestion
  updateQuestion h := h.updateQuestion
  deleteQuestion h := h.deleteQuestion
  insertChoice h := h.insertChoice
  updateChoice h := h.updateChoice
  deleteChoice h := h.deleteChoice

end Tables.Sound

/-- Every store that can be reached is sound. -/
theorem Reachable.sound {t : Tables} (h : Reachable t) : t.Sound :=
  h.of_closed Tables.Sound.closed .empty

end TriviaStore
