import TriviaStore.Proofs.Attempt.Fixes
import TriviaStore.Proofs.Store.Keeps

/-! # What the author has given

The store fills ids and creation times into the entities passed to it. What the author has given,
texts, positions and flags and the order of the children, stays as it is, whether a write succeeds or
fails.
-/

namespace TriviaStore

open Attempt

/-- The choice without what the store fills in. -/
def Choice.authored (x : Choice) : Choice := { x with id := 0, questionId := 0 }

/-- The question without what the store fills in. -/
def Question.authored (q : Question) : Question :=
  { q with id := 0, quizId := 0, choices := q.choices.map Choice.authored }

/-- The quiz without what the store fills in. -/
def Quiz.authored (v : Quiz) : Quiz :=
  { v with id := 0, createdAt := none, questions := v.questions.map Question.authored }

@[simp] theorem Choice.authored_forget (x : Choice) : x.forget.authored = x.authored := rfl

@[simp] theorem Question.authored_forgetChoices (q : Question) :
    q.forgetChoices.authored = q.authored := by
  simp [Question.authored, Question.forgetChoices, Function.comp_def]

@[simp] theorem Question.authored_forget (q : Question) : q.forget.authored = q.authored := by
  simp [Question.authored, Question.forget, Question.forgetChoices, Function.comp_def]

@[simp] theorem Quiz.authored_forget (v : Quiz) : v.forget.authored = v.authored := by
  simp [Quiz.authored, Quiz.forget, Function.comp_def]

theorem Question.authored_eq_of_choices {q : Question} {choices : List Choice}
    (h : choices.map Choice.authored = q.choices.map Choice.authored) :
    { q with choices }.authored = q.authored := by
  simp only [Question.authored, h]

theorem Quiz.authored_eq_of_questions {v : Quiz} {questions : List Question}
    (h : questions.map Question.authored = v.questions.map Question.authored) :
    { v with questions }.authored = v.authored := by
  simp only [Quiz.authored, h]

variable {plan : Plan Statement} {cond : Conditions}

theorem fixes_assigning {τ A : Type} {f : τ → A} {insert : τ → Attempt Connection Int}
    {set : Int → τ → τ} (h : ∀ id x, f (set id x) = f x) : (assigning insert set).Fixes f := by
  refine fixes_of_run fun x c => ?_
  dsimp only [assigning]
  split
  · exact h _ x
  · rfl

theorem Choice.fixes_authored : (Choice.reconciler plan).Fixes Choice.authored where
  attach _ _ := rfl
  reset := fixes_pure ()
  create := fixes_assigning fun _ _ => rfl
  update _ := fixes_of_run fun _ _ => rfl
  descend := fixes_pure ()

section Update

variable {A : Type} {f : Question → A}

theorem Question.fixes_findOwner (h : ∀ q quizId, f { q with quizId } = f q) :
    (Question.findOwner plan).Fixes f := by
  refine fixes_of_run fun q c => ?_
  dsimp only [Question.findOwner]
  split
  · exact h q _
  · rfl
  · rfl

/-- An update changes nothing of a question but the quiz that it names. -/
theorem Question.update_fixes (h : ∀ q quizId, f { q with quizId } = f q) (parent : Option Int) :
    (Question.update plan parent).Fixes f := by
  refine fixes_read.bind fun ⟨q, _⟩ => (fixes_onSecond _).bind fun rows => ?_
  dsimp only
  split
  · exact (Question.fixes_findOwner h).bind fun _ => fixes_pure rows
  · exact fixes_pure rows

end Update

theorem Question.fixes_authored : (Question.reconciler plan).Fixes Question.authored where
  attach _ _ := rfl
  reset := fixes_update fun q _ => q.authored_forgetChoices
  create := fixes_assigning fun _ _ => rfl
  update := Question.update_fixes fun _ _ => rfl
  descend := fixes_of_run fun q c =>
    Question.authored_eq_of_choices ((Choice.fixes_authored.reconcile q.id).run q.choices c)

/-- Inserting a quiz's row changes nothing of the quiz but its id and its creation time. -/
theorem Store.fixes_insertQuiz {A : Type} {f : Quiz → A}
    (h : ∀ v id createdAt, f { v with id, createdAt } = f v) : (Store.insertQuiz cond).Fixes f := by
  refine fixes_of_run fun v c => ?_
  dsimp only [Store.insertQuiz]
  split
  · rfl
  · split
    · exact h v _ _
    · rfl

/-- Overwriting a quiz's row changes nothing of the quiz. -/
theorem Store.fixes_overwriteQuiz {A : Type} {f : Quiz → A} : (Store.overwriteQuiz cond).Fixes f := by
  refine fixes_read.bind fun ⟨v, _⟩ => (fixes_onSecond _).bind fun rows => ?_
  split
  · exact fixes_fail _
  · exact fixes_pure ()

theorem Store.fixes_upsertQuiz : (Store.upsertQuiz cond).Fixes Quiz.authored := by
  have hr : ∀ m, ((Store.reconcileQuestions cond).inContext m).Fixes Quiz.authored := by
    refine fun m => Fixes.inContext (fixes_of_run fun v c => ?_)
    exact Quiz.authored_eq_of_questions ((Question.fixes_authored.reconcile v.id).run v.questions c)
  refine fixes_read.bind fun ⟨v, _⟩ => ?_
  dsimp only
  split
  · exact (Store.fixes_insertQuiz fun _ _ _ => rfl).bind fun _ => hr _
  · exact Store.fixes_overwriteQuiz.bind fun _ => hr _

theorem Store.fixes_transacting {τ A : Type} {f : τ → A} {work : Attempt (τ × Connection) Unit}
    (h : work.Fixes f) : (Store.transacting plan work).Fixes f :=
  SessionCalls.fixes_transaction h

theorem Store.fixes_announce {τ A : Type} {f : τ → A} (event : τ → Event) :
    (Store.announce event).Fixes f := fixes_update fun _ _ => rfl

theorem Store.fixes_createQuiz : (Store.createQuiz cond).Fixes Quiz.authored := by
  have hf : (Attempt.update fun p : Quiz × Connection => (p.1.forget, p.2)).Fixes Quiz.authored :=
    fixes_update fun v _ => v.authored_forget
  exact hf.bind fun _ => (Store.fixes_transacting Store.fixes_upsertQuiz).bind fun _ =>
    Store.fixes_announce _

theorem Store.fixes_updateQuiz : (Store.updateQuiz cond).Fixes Quiz.authored := by
  refine fixes_read.bind fun ⟨v, _⟩ => ?_
  have ht : (do
      Store.transacting cond.plan (Store.upsertQuiz cond)
      Store.announce fun q => .quizUpdated q.id).Fixes Quiz.authored :=
    (Store.fixes_transacting Store.fixes_upsertQuiz).bind fun _ => Store.fixes_announce _
  dsimp only
  split
  · exact (fixes_fail _).bind fun _ => ht
  · exact ht

theorem Store.fixes_createQuestion : (Store.createQuestion cond).Fixes Question.authored := by
  have hf : (Attempt.update fun p : Question × Connection => (p.1.forget, p.2)).Fixes
      Question.authored := fixes_update fun q _ => q.authored_forget
  exact hf.bind fun _ => (Store.fixes_transacting (Question.fixes_authored.upsert none)).bind fun _ =>
    Store.fixes_announce _

theorem Store.fixes_updateQuestion : (Store.updateQuestion cond).Fixes Question.authored := by
  refine fixes_read.bind fun ⟨q, _⟩ => ?_
  have ht : (do
      Store.transacting cond.plan ((Question.reconciler cond.plan).upsert none)
      Store.announce fun q => .questionUpdated q.id).Fixes Question.authored :=
    (Store.fixes_transacting (Question.fixes_authored.upsert none)).bind fun _ => Store.fixes_announce _
  dsimp only
  split
  · exact (fixes_fail _).bind fun _ => ht
  · exact ht

end TriviaStore
