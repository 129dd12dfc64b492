import TriviaStore.Proofs.Store.Heeded
import TriviaStore.Proofs.Store.Operation

/-! # What writes ignore

Creating ignores all ids and parents but the quiz under which a question is created, and the creation
time. Updating a quiz ignores its creation time, the parents that its members name, and the ids below
new questions; updating a question ignores the parents that it and its choices name. Calls that
differ in nothing else end alike.
-/

namespace TriviaStore

open Attempt

variable {cond : Conditions} {plan : Plan Statement}

theorem Question.heeded_forget (q : Question) : q.forget.heeded = q.authored := by
  simp [Question.heeded, Question.forget, Question.forgetChoices, Question.desired,
    Question.authored, Choice.heeded, Choice.forget, Choice.authored, Function.comp_def]

theorem Quiz.heeded_forget (v : Quiz) : v.forget.heeded = v.authored := by
  simp [Quiz.heeded, Quiz.forget, Quiz.authored, Question.heeded_forget, Function.comp_def]

namespace Store

theorem alike_transacting {τ : Type} {work : Attempt (τ × Connection) Unit} {R S : τ → τ → Prop}
    {F : Failure → Failure → Prop} (hF : ∀ e, F e e)
    (hw : work.Alike R (fun _ => S) (Fails F)) :
    (transacting plan work).Alike R (fun _ => S) (Fails F) :=
  SessionCalls.alike_transaction hF hw

theorem alike_announce {τ : Type} {S : τ → τ → Prop} {E : Failure × τ → Failure × τ → Prop}
    {event : τ → Event} (h : ∀ t u, S t u → event t = event u) :
    (announce event).Alike S (fun _ => S) E :=
  alike_update fun t u c htu => ⟨congrArg (Connection.note · c) (h t u htu), htu⟩

/-- Quizzes of which the author has given the same are created alike. -/
theorem alike_createQuiz : (createQuiz cond).Alike (fun v w => v.authored = w.authored)
    (fun _ => Eq) (Fails Eq) := by
  have hforget : (Attempt.update fun x : Quiz × Connection => (x.1.forget, x.2)).Alike
      (fun v w => v.authored = w.authored)
      (fun _ v w => v.heeded = w.heeded ∧ v.id = 0) (Fails Eq) := by
    refine alike_update fun v w c h => ⟨rfl, ?_, rfl⟩
    rw [Quiz.heeded_forget, Quiz.heeded_forget, h]
  refine hforget.bind fun _ => (alike_transacting (fun _ => rfl) alike_upsertQuiz_new).bind fun _ => ?_
  exact alike_announce fun v w h => by rw [h]

/-- Questions of which the author has given the same are created alike under one quiz. -/
theorem alike_createQuestion : (createQuestion cond).Alike
    (fun q r => q.quizId = r.quizId ∧ q.authored = r.authored) (fun _ => Eq) (Fails Eq) := by
  have hforget : (Attempt.update fun x : Question × Connection => (x.1.forget, x.2)).Alike
      (fun q r => q.quizId = r.quizId ∧ q.authored = r.authored)
      (fun _ q r => (q.heeded = r.heeded ∧ q.quizId = r.quizId) ∧ q.id = 0 ∧ r.id = 0)
      (Fails Eq) := by
    refine alike_update fun q r c h => ⟨rfl, ⟨?_, h.1⟩, rfl, rfl⟩
    rw [Question.heeded_forget, Question.heeded_forget, h.2]
  -- A new question is upserted in one way under any quiz.
  have hupsert : ((Question.reconciler cond.plan).upsert none).Alike
      (fun q r => (q.heeded = r.heeded ∧ q.quizId = r.quizId) ∧ q.id = 0 ∧ r.id = 0)
      (fun _ => Eq) (Fails Eq) := by
    intro q r c ⟨h, hq, hr⟩
    have hany (q : Question) (hq : q.id = 0) : (Question.reconciler cond.plan).upsert none (q, c) =
        (Question.reconciler cond.plan).upsert (some 0) (q, c) := Reconciler.upsert_of_new hq
    rw [hany q hq, hany r hr]
    exact (Question.alike_upsert_under q r c h).mono (fun _ _ _ h => h) fun _ _ h => h.1
  refine hforget.bind fun _ => (alike_transacting (fun _ => rfl) hupsert).bind fun _ => ?_
  exact alike_announce fun q r h => by rw [h]

/-- Quizzes that are heeded alike are updated alike; each keeps its creation time. -/
theorem alike_updateQuiz : (updateQuiz cond).Alike (fun v w => v.heeded = w.heeded)
    (fun _ v w => { v with createdAt := none } = { w with createdAt := none }) (Fails Eq) := by
  refine Alike.read_bind (fun v w c h => by simp only [(fields_of_heeded h).1]) fun v w c h => ?_
  dsimp only
  split
  · exact .error rfl
  · refine ((alike_transacting (fun _ => rfl) alike_upsertQuiz_old).bind fun _ => ?_) v w c ⟨h, ‹_›⟩
    exact alike_announce fun v w h => congrArg Event.quizUpdated (Quiz.mk.inj h).1

/-- Questions that are heeded alike are updated alike, but failures may name their parents. -/
theorem alike_updateQuestion : (updateQuestion cond).Alike (fun q r => q.heeded = r.heeded)
    (fun _ => Eq) (Fails fun _ _ => True) := by
  refine Alike.read_bind (fun q r c h => by simp only [(Question.fields_of_heeded h).1])
    fun q r c h => ?_
  dsimp only
  split
  · exact .error trivial
  · refine ((alike_transacting (fun _ => trivial) Question.alike_upsert_alone).bind fun _ => ?_)
      q r c ⟨h, ‹_›⟩
    exact alike_announce fun q r h => by rw [h]

/-- Writes that differ in what is ignored end alike: they succeed with aggregates that are equal, and
leave one store, or fail in one way. -/
structure Ignores (cond : Conditions) (c : Connection) : Prop where
  createQuiz : ∀ v w : Quiz, v.authored = w.authored →
    EndsAlike (fun _ => Eq) (Fails Eq) (createQuiz cond (v, c)) (createQuiz cond (w, c))
  /-- What a creation that failed has filled in does not matter when it is tried again. -/
  createQuiz_again : ∀ (cond₀ : Conditions) (c₀ c₁ : Connection) (v v₁ : Quiz) (e : Failure),
    Store.createQuiz cond₀ (v, c₀) = (.error e, (v₁, c₁)) →
      EndsAlike (fun _ => Eq) (Fails Eq) (Store.createQuiz cond (v₁, c))
        (Store.createQuiz cond (v, c))
  createQuestion : ∀ q r : Question, q.quizId = r.quizId → q.authored = r.authored →
    EndsAlike (fun _ => Eq) (Fails Eq) (createQuestion cond (q, c)) (createQuestion cond (r, c))
  updateQuiz : ∀ v w : Quiz, v.heeded = w.heeded →
    EndsAlike (fun _ v' w' => { v' with createdAt := none } = { w' with createdAt := none })
      (Fails Eq) (updateQuiz cond (v, c)) (updateQuiz cond (w, c))
  /-- Failures may name the parents that were passed in. -/
  updateQuestion : ∀ q r : Question, q.heeded = r.heeded →
    EndsAlike (fun _ => Eq) (Fails fun _ _ => True) (updateQuestion cond (q, c))
      (updateQuestion cond (r, c))

theorem ignores (cond : Conditions) (c : Connection) : Ignores cond c where
  createQuiz v w h := alike_createQuiz v w c h
  createQuiz_again cond₀ c₀ c₁ v v₁ e h := by
    have hsame : v₁.authored = v.authored := fixes_createQuiz.eq h
    exact alike_createQuiz v₁ v c hsame
  createQuestion q r hquiz h := alike_createQuestion q r c ⟨hquiz, h⟩
  updateQuiz v w h := alike_updateQuiz v w c h
  updateQuestion q r h := alike_updateQuestion q r c h

/-- A quiz of one question, as if made from one that is stored. -/
def copied : Quiz where
  id := 1
  title := some "Quiz 3"
  slug := some "quiz-3"
  description := some "This is a copy"
  createdAt := some ⟨5000⟩
  questions := [{ Question.new "France?" 10
    [{ Choice.new "Paris" true with id := 1, questionId := 1 },
      { Choice.new "Lyon" false with id := 1, questionId := 2 }] with id := 1, quizId := 2 }]

theorem ignores_copied : createQuiz .calm (copied, .onto .demo) = createQuiz .calm
    (.new "Quiz 3" "quiz-3" "This is a copy"
      [.new "France?" 10 [.new "Paris" true, .new "Lyon" false]], .onto .demo) := by
  have h := (ignores .calm (.onto .demo)).createQuiz copied
    (.new "Quiz 3" "quiz-3" "This is a copy"
      [.new "France?" 10 [.new "Paris" true, .new "Lyon" false]]) rfl
  have hok : (createQuiz .calm (copied, .onto .demo)).1 = .ok () := by decide +kernel
  exact h.eq_of_ok hok

end Store

end TriviaStore
