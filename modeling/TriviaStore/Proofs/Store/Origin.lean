import TriviaStore.Proofs.Connection.Failing
import TriviaStore.Proofs.Store.Operation
import TriviaStore.Proofs.Store.Success
import TriviaStore.Proofs.Transaction.Failing

/-! # Where writes of quizzes fail

Storing a quiz fails at its own row, in the reconciliation of its questions, or in the reconciliation of
the choices of one of its questions. The error that comes out is the one that was raised there, with the
operations under way around that place in front of its message, and with nothing else changed.
-/

namespace TriviaStore

open Attempt

/-- The places in a quiz aggregate where storing it can fail. -/
inductive Site
  /-- The quiz's own row. -/
  | quiz
  /-- The reconciliation of the quiz's questions. -/
  | questions
  /-- The reconciliation of the choices of a question. -/
  | choices (questionId : Int)
  deriving DecidableEq, Repr

namespace Site

/-- The table whose rows are written at a site. -/
def table : Site → Table
  | .quiz => .quizzes
  | .questions => .questions
  | .choices _ => .choices

/-- What is said in front of an error from a site in the quiz with an id. -/
def context (quizId : Int) : Site → String
  | .quiz => ""
  | .questions => s!"error upserting quiz {quizId}: "
  | .choices questionId =>
    s!"error upserting quiz {quizId}: " ++ s!"error upserting question {questionId}: "

/-- A failure from a site, as the quiz with an id tells it. -/
def tell (quizId : Int) : Site → Failure → Failure
  | .quiz, f => f
  | .questions, f => f.under s!"error upserting quiz {quizId}"
  | .choices questionId, f =>
    (f.under s!"error upserting question {questionId}").under s!"error upserting quiz {quizId}"

end Site

/-- The same error, told with more context in front of its message. -/
structure StoreError.Retold (context : String) (d e : StoreError) : Prop where
  kind : e.kind = d.kind
  cause : e.cause = d.cause
  message : e.message = context ++ d.message
  arguments : e.arguments.tail = d.arguments.tail

namespace StoreError

theorem Retold.same (d : StoreError) : d.Retold "" d :=
  ⟨rfl, rfl, String.empty_append.symm, rfl⟩

theorem retold_addContext (d : StoreError) (context : String) :
    d.Retold (context ++ ": ") (d.addContext context) :=
  ⟨rfl, rfl, rfl, rfl⟩

theorem Retold.trans {inner outer : String} {d e f : StoreError} (h : d.Retold inner e)
    (h' : e.Retold outer f) : d.Retold (outer ++ inner) f where
  kind := h'.kind.trans h.kind
  cause := h'.cause.trans h.cause
  message := by rw [h'.message, h.message, String.append_assoc]
  arguments := h'.arguments.trans h.arguments

end StoreError

theorem Site.tell_store (quizId : Int) (site : Site) (d : StoreError) :
    ∃ e, site.tell quizId (.store d) = .store e ∧ d.Retold (site.context quizId) e := by
  cases site with
  | quiz => exact ⟨d, rfl, .same d⟩
  | questions => exact ⟨_, rfl, d.retold_addContext _⟩
  | choices questionId => exact ⟨_, rfl, (d.retold_addContext _).trans (StoreError.retold_addContext _ _)⟩

/-- An error that is told as a store error was raised as one. -/
theorem Site.store_of_tell {quizId : Int} {site : Site} {f : Failure} {e : StoreError}
    (h : site.tell quizId f = .store e) : ∃ d, f = .store d := by
  cases f with
  | store d => exact ⟨d, rfl⟩
  | _ => cases site <;> cases h

namespace Store

variable {cond : Conditions} {v : Quiz} {c c' : Connection} {e : Failure}

/-! ## Origins -/

/-- Write the quiz's own row. -/
def writeQuiz (cond : Conditions) : Attempt (Quiz × Connection) Unit := fun x =>
  if x.1.id = 0 then insertQuiz cond x else overwriteQuiz cond x

theorem upsertQuiz_eq : upsertQuiz cond = (do
    writeQuiz cond
    (reconcileQuestions cond).inContext fun (q, _) => s!"error upserting quiz {q.id}") := by
  funext ⟨v, c⟩
  unfold upsertQuiz
  rw [bind_of_ok (read_run _), bind_run]
  dsimp only [writeQuiz]
  split <;> rfl

/-- Writing the quiz's own row fails. -/
inductive RowFails (cond : Conditions) : Quiz × Connection → Failure → Quiz × Connection → Prop
  | dating {v : Quiz} {c : Connection} (new : v.id = 0) (undated : Moment.now? cond.clock = none) :
      RowFails cond (v, c) .overflow (v, c)
  | inserting {v : Quiz} {c c' : Connection} {now : Moment} {f : Failure} (new : v.id = 0)
      (dated : Moment.now? cond.clock = some now)
      (insert : Connection.insert cond.plan .quizzes
        (Tables.insertQuiz v.title v.slug v.description now.toMillis) c = (.error f, c')) :
      RowFails cond (v, c)
        (f.wrappedIn s!"failed to create quiz (title: {Text.quotedOrNone v.title})") (v, c')
  | updating {v : Quiz} {c c' : Connection} {f : Failure} (old : v.id ≠ 0)
      (update : Connection.write cond.plan (.update .quizzes)
        (Tables.updateQuiz v.id v.title v.slug v.description) c = (.error f, c')) :
      RowFails cond (v, c) (f.wrappedIn s!"failed to update quiz {v.id}") (v, c')
  | missing {v : Quiz} {c c' : Connection} (old : v.id ≠ 0)
      (update : Connection.write cond.plan (.update .quizzes)
        (Tables.updateQuiz v.id v.title v.slug v.description) c = (.ok 0, c')) :
      RowFails cond (v, c) (.store (.missed .updatingQuiz v.id)) (v, c')

/-- A failure is raised at a site while a quiz is stored. -/
inductive Arises (cond : Conditions) (x : Quiz × Connection) :
    Site → Failure → Quiz × Connection → Prop
  | quiz {f : Failure} {y : Quiz × Connection} (fails : RowFails cond x f y) : Arises cond x .quiz f y
  | questions {v : Quiz} {c c' : Connection} {f : Failure} {questions : List Question}
      (written : writeQuiz cond x = (.ok (), (v, c)))
      (fails : (Question.reconciler cond.plan).FailsItself v.id (v.questions, c) f (questions, c')) :
      Arises cond x .questions f ({ v with questions }, c')
  | choices {v : Quiz} {c c₁ c' : Connection} {f : Failure} {questions : List Question}
      {q : Question} {choices : List Choice} (written : writeQuiz cond x = (.ok (), (v, c)))
      (reached : (Question.reconciler cond.plan).FailsBelow v.id (q, c₁) f { q with choices }
        (v.questions, c) (questions, c'))
      (fails : (Choice.reconciler cond.plan).FailsItself q.id (q.choices, c₁) f (choices, c')) :
      Arises cond x (.choices q.id) f ({ v with questions }, c')

theorem overwriteQuiz_eq_error {y : Quiz × Connection} (old : v.id ≠ 0) :
    overwriteQuiz cond (v, c) = (.error e, y) ↔ RowFails cond (v, c) e y := by
  obtain ⟨v', c'⟩ := y
  unfold overwriteQuiz
  rw [bind_of_ok (read_run _), bind_eq_error]
  constructor
  · rintro (h | ⟨n, ⟨_, c₁⟩, hw, h⟩)
    · obtain ⟨hw, rfl⟩ := onSecond_eq_error.mp h
      obtain ⟨f, hf, rfl⟩ := wrapping_eq_error.mp hw
      exact .updating old hf
    · obtain ⟨hw, rfl⟩ := onSecond_eq_ok.mp hw
      split at h
      · rename_i hn
        cases h
        exact .missing old (hn ▸ wrapping_eq_ok.mp hw)
      · cases h
  · intro h
    cases h with
    | dating new => exact absurd new old
    | inserting new => exact absurd new old
    | updating _ update =>
      exact .inl (onSecond_eq_error.mpr ⟨wrapping_eq_error.mpr ⟨_, update, rfl⟩, rfl⟩)
    | missing _ update =>
      exact .inr ⟨0, _, onSecond_eq_ok.mpr ⟨wrapping_eq_ok.mpr update, rfl⟩, rfl⟩

theorem insertQuiz_eq_error {y : Quiz × Connection} (new : v.id = 0) :
    insertQuiz cond (v, c) = (.error e, y) ↔ RowFails cond (v, c) e y := by
  dsimp only [insertQuiz]
  constructor
  · intro h
    split at h
    · rename_i undated
      cases h
      exact .dating new undated
    · rename_i now dated
      split at h
      · cases h
      · rename_i f c₁ hi
        cases h
        obtain ⟨f, hf, rfl⟩ := wrapping_eq_error.mp hi
        exact .inserting new dated hf
  · intro h
    cases h with
    | dating _ undated => simp only [undated]
    | inserting _ dated insert =>
      simp only [dated]
      rw [wrapping_eq_error.mpr ⟨_, insert, rfl⟩]
    | updating old => exact absurd new old
    | missing old => exact absurd new old

theorem writeQuiz_eq_error {x y : Quiz × Connection} :
    writeQuiz cond x = (.error e, y) ↔ RowFails cond x e y := by
  obtain ⟨v, c⟩ := x
  by_cases hv : v.id = 0
  · simp only [writeQuiz, hv, if_true]
    exact insertQuiz_eq_error hv
  · simp only [writeQuiz, hv, if_false]
    exact overwriteQuiz_eq_error hv

/-- There is nothing below a choice where storing it could fail. -/
theorem reconcile_choices_eq_error {plan : Plan Statement} {p : Int}
    {x y : List Choice × Connection} : (Choice.reconciler plan).reconcile p x = (.error e, y) ↔
      (Choice.reconciler plan).FailsItself p x e y := by
  rw [Reconciler.reconcile_eq_error]
  constructor
  · rintro (h | ⟨z, f, c', h, -⟩)
    · exact h
    · cases h with
      | intro _ _ descend => cases descend
  · exact .inl

/-- A quiz cannot be stored where a failure is raised at one of its sites, and in no other case. -/
theorem upsertQuiz_eq_error {x y : Quiz × Connection} : upsertQuiz cond x = (.error e, y) ↔
    ∃ site f, Arises cond x site f y ∧ e = site.tell y.1.id f := by
  rw [upsertQuiz_eq, bind_eq_error, writeQuiz_eq_error]
  constructor
  · rintro (hrow | ⟨_, ⟨v, c⟩, written, h⟩)
    · exact ⟨.quiz, e, .quiz hrow, rfl⟩
    obtain ⟨f, hf, rfl⟩ := inContext_eq_error.mp h
    obtain ⟨questions, c', hr, rfl⟩ := reconcileQuestions_eq_error.mp hf
    rcases Reconciler.reconcile_eq_error _ |>.mp hr with fails | ⟨⟨q, c₁⟩, g, q', reached, rfl⟩
    · exact ⟨.questions, f, .questions written fails, rfl⟩
    · obtain ⟨choices, c₂, hc, hq⟩ := Question.reconcileChoices_eq_error.mp reached.descend.1
      obtain ⟨rfl, rfl⟩ := Prod.mk.inj hq
      exact ⟨.choices q.id, g, .choices written reached (reconcile_choices_eq_error.mp hc), rfl⟩
  · rintro ⟨site, f, h, rfl⟩
    cases h with
    | quiz fails => exact .inl fails
    | questions written fails =>
      refine .inr ⟨(), _, written, inContext_eq_error.mpr ⟨f, ?_, rfl⟩⟩
      exact reconcileQuestions_eq_error.mpr ⟨_, _, Reconciler.reconcile_of_failsItself _ fails, rfl⟩
    | choices written reached fails =>
      refine .inr ⟨(), _, written, inContext_eq_error.mpr ⟨_, ?_, rfl⟩⟩
      have failed := Reconciler.reconcile_of_failsBelow _ reached
      exact reconcileQuestions_eq_error.mpr ⟨_, _, failed, rfl⟩

/-! ## Where the connection has got to -/

theorem RowFails.endsOn {x y : Quiz × Connection} {d : StoreError}
    (h : RowFails cond x (.store d) y) : y.2.EndsOn .quizzes := by
  generalize hf : Failure.store d = f at h
  cases h with
  | dating => cases hf
  | inserting _ _ insert => exact Connection.insert_endsOn insert
  | updating _ update => exact Connection.write_endsOn rfl update
  | missing _ update => exact Connection.write_endsOn rfl update

/-- The last statement issued was about the table of the site. -/
theorem Arises.endsOn {x y : Quiz × Connection} {site : Site} {d : StoreError}
    (h : Arises cond x site (.store d) y) : y.2.EndsOn site.table := by
  cases h with
  | quiz fails => exact fails.endsOn
  | questions _ fails => exact Question.failsItself_endsOn fails
  | choices _ _ fails => exact Choice.failsItself_endsOn fails

/-- A question at which a failure is raised is among the questions of the quiz, with its id. -/
theorem Arises.carried {x y : Quiz × Connection} {questionId : Int} {f : Failure}
    (h : Arises cond x (.choices questionId) f y) : questionId ∈ y.1.questions.map (·.id) := by
  cases h with
  | choices _ reached _ => exact List.mem_map.mpr ⟨_, reached.descend.2, rfl⟩

/-! ## Whole operations -/

theorem transacting_breaks {τ : Type} {plan : Plan Statement} {work : Attempt (τ × Connection) Unit}
    {x : τ} {y : τ × Connection} (h : transacting plan work (x, c) = (.error e, y)) :
    (Connection.session plan).alongside.Breaks work (x, c.refresh) e :=
  SessionCalls.breaks_of_transaction Connection.session_closes.alongside rfl h

/-- What has been done is announced without fail. -/
theorem error_of_announced {τ : Type} {work : Attempt (τ × Connection) Unit} {event : τ → Event}
    {x y : τ × Connection} (h : (work >>= fun _ => announce event) x = (.error e, y)) :
    work x = (.error e, y) := by
  rcases bind_eq_error.mp h with h | ⟨_, _, _, h⟩
  · exact h
  · cases h

theorem createQuiz_breaks {y : Quiz × Connection} (h : createQuiz cond (v, c) = (.error e, y)) :
    (Connection.session cond.plan).alongside.Breaks (upsertQuiz cond) (v.forget, c.refresh) e := by
  unfold createQuiz at h
  rw [bind_of_ok (update_run _ _)] at h
  exact transacting_breaks (error_of_announced h)

theorem updateQuiz_breaks {y : Quiz × Connection} (hv : v.id ≠ 0)
    (h : updateQuiz cond (v, c) = (.error e, y)) :
    (Connection.session cond.plan).alongside.Breaks (upsertQuiz cond) (v, c.refresh) e := by
  unfold updateQuiz at h
  rw [bind_of_ok (read_run _)] at h
  dsimp only at h
  rw [if_neg hv] at h
  exact transacting_breaks (error_of_announced h)

/-- What is known of an error with which storing a quiz fails. -/
structure TellsOrigin (cond : Conditions) : Prop where
  /-- It was raised at a site, and has been told with what was under way around that site. -/
  raised : ∀ {x y e}, upsertQuiz cond x = (.error (.store e), y) →
    ∃ site d, Arises cond x site (.store d) y ∧ d.Retold (site.context y.1.id) e
  /-- Whatever is raised at a site comes out. -/
  told : ∀ {x y site d}, Arises cond x site (.store d) y →
    ∃ e, upsertQuiz cond x = (.error (.store e), y) ∧ d.Retold (site.context y.1.id) e
  located : ∀ {x y site d}, Arises cond x site (.store d) y → y.2.EndsOn site.table
  carried : ∀ {x y questionId f}, Arises cond x (.choices questionId) f y →
    questionId ∈ y.1.questions.map (·.id)
  /-- A transaction around it fails with the same error, if not with one of its own. -/
  created : ∀ {v c e y}, createQuiz cond (v, c) = (.error e, y) →
    (Connection.session cond.plan).alongside.Breaks (upsertQuiz cond) (v.forget, c.refresh) e
  updated : ∀ {v c e y}, v.id ≠ 0 → updateQuiz cond (v, c) = (.error e, y) →
    (Connection.session cond.plan).alongside.Breaks (upsertQuiz cond) (v, c.refresh) e

/-- Whatever the plan makes fail: the error that comes out of storing a quiz is the one that was raised,
told with exactly the operations around the place where it was raised. -/
theorem tellsOrigin (cond : Conditions) : TellsOrigin cond where
  raised h := by
    obtain ⟨site, f, harises, hf⟩ := upsertQuiz_eq_error.mp h
    obtain ⟨d, rfl⟩ := Site.store_of_tell hf.symm
    obtain ⟨e', he', retold⟩ := site.tell_store _ d
    cases hf.trans he'
    exact ⟨site, d, harises, retold⟩
  told {x y site d} h := by
    obtain ⟨e, he, retold⟩ := site.tell_store y.1.id d
    exact ⟨e, upsertQuiz_eq_error.mpr ⟨site, _, h, he.symm⟩, retold⟩
  located := Arises.endsOn
  carried := Arises.carried
  created := createQuiz_breaks
  updated := updateQuiz_breaks

/-- The error of an update that matched no choice, from below the first question of the first quiz. -/
example : (updateQuiz .calm ({ Quiz.revised with questions :=
      [{ Question.new "France?" 10 [{ Choice.new "Paris" true with id := 99 }] with id := 1 }] },
        .onto .demo)).1 =
    .error (.store ⟨.missed .updatingChoice 99, ["error upserting quiz 1: " ++
      "error upserting question 1: no rows affected when updating option 99"], none⟩) := by
  decide +kernel

end Store

end TriviaStore
