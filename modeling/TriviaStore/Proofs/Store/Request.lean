import TriviaStore.Proofs.Store.Reported
import TriviaStore.Proofs.Transaction.Failing

/-! # Requests and what is reported of them

A transaction adds its own failures to those of its work, a read wraps what is raised inside of it. With
that, each of the seven calls of a store that can be reached fails in one of the ways that are `Reported`.
-/

namespace TriviaStore

open Attempt

variable {plan : Plan Statement} {ns : List Int}

namespace Store

variable {cond : Conditions} {e : Failure}

/-! ## Transactions -/

theorem raised_of_session {τ : Type} {plan : Plan Statement} (hplan : plan.Driven)
    {act : Connection → Except Failure Unit × Connection} {s : Statement} {x : τ} {c : Connection}
    {y : τ × Connection} (hact : ∀ c, ∃ c', act c = (.ok (), c'))
    (h : Attempt.onSecond (Connection.issue plan s act) (x, c) = (.error e, y)) :
    Raised plan ns e := by
  obtain ⟨_, c'⟩ := y
  rcases Connection.issue_error (onSecond_eq_error.mp h).1 with h | h
  · exact Connection.raised_of_plan hplan h
  · obtain ⟨c'', h'⟩ := hact { c with issued := c.issued ++ [s] }
    cases h'.symm.trans h

/-- A transaction on a sound store reports its own failures and those of its work. -/
theorem meets_transacting {τ : Type} {plan : Plan Statement} (hplan : plan.Driven) {J : τ → Prop}
    {work : Attempt (τ × Connection) Unit} {R : Unit → τ × Connection → Prop}
    (hwork : work.Meets (Both J Connection.SeesSound) R (Reported plan ns)) :
    (transacting plan work).Meets (Both J fun c => c.committed.Sound) (fun _ _ => True)
      (Reported plan ns) := by
  refine meets_of (fun _ _ => trivial) ?_
  rintro ⟨x, c⟩ e y ⟨hx, hc⟩ h
  cases transacting_breaks h with
  | beginning begin => exact .of_session (raised_of_session hplan (fun _ => ⟨_, rfl⟩) begin) _
  | @working e s₁ s₂ begin failed =>
    obtain ⟨x₁, c₁⟩ := s₁
    obtain ⟨hb, hx₁⟩ := onSecond_eq_ok.mp begin
    subst hx₁
    refine hwork.error (s := (x₁, c₁)) ⟨hx, ?_⟩ failed
    unfold Connection.SeesSound
    rw [Connection.begin_ok hb]
    exact hc
  | committing _ _ commit => exact .of_session (raised_of_session hplan (fun _ => ⟨_, rfl⟩) commit) _
  | @undoing f _ _ rollback other =>
    have hraised : Raised plan [] f := raised_of_session hplan (fun _ => ⟨_, rfl⟩) rollback
    rcases hraised.driver_or_unfit with ⟨d, rfl⟩ | ⟨n, mem, -⟩
    · cases other
    · cases mem

/-! ## Reading -/

theorem meets_reading {α : Type} {read : Attempt Connection α} {R : α → Connection → Prop}
    {Q : Failure → Prop} (h : read.Meets Connection.SeesSound R Q) :
    (Connection.reading read).Meets (fun c => c.committed.Sound) (fun _ _ => True) Q := by
  refine meets_of (fun _ _ => trivial) fun {c e c'} hc hr => ?_
  dsimp only [Connection.reading] at hr
  rcases hread : read c.refresh with ⟨r, c₁⟩
  rw [hread] at hr
  obtain ⟨rfl, -⟩ := Prod.mk.inj hr
  exact h.error (s := c.refresh) hc hread

section Loads

variable (hplan : plan.Driven)
include hplan

theorem meets_loadChoices {questionId : Int} (h : Fitting ns questionId) :
    (loadChoices plan questionId).Meets Connection.SeesSound (fun _ => Connection.SeesSound)
      (Raised plan ns) :=
  (Connection.meets_query (A := fun _ => True) hplan (fun _ _ => Tables.choicesOf_refuses h)
    fun _ _ => trivial).bind fun _ => meets_pure _ fun _ hs => hs.2

theorem meets_loadQuestion {row : QuestionRow} (h : Fitting ns row.id) :
    (loadQuestion plan row).Meets Connection.SeesSound (fun _ => Connection.SeesSound)
      (Raised plan ns) :=
  (meets_loadChoices hplan h).bind fun _ => meets_pure _ fun _ hs => hs

theorem meets_loadQuiz {record : QuizRecord} (h : Fitting ns record.id) :
    (loadQuiz plan record).Meets Connection.SeesSound (fun _ => Connection.SeesSound)
      (Raised plan ns) := by
  refine Meets.bind (Meets.bind (R := fun rows c => (∀ r ∈ rows, Fitting ns r.id) ∧ c.SeesSound)
    (Connection.meets_query hplan (fun _ _ => Tables.questionsOf_refuses h) ?_) fun rows => ?_)
    fun _ => meets_pure _ fun _ hs => hs
  · intro t rows ht hrows r hr
    obtain ⟨r', hr', -⟩ := (Tables.mem_questionsOf ht hrows).mp (List.mem_map_of_mem hr)
    obtain ⟨hmem, hid⟩ := ht.questions.rowAt_eq_some.mp hr'
    exact .of_fits (hid ▸ ht.questions_fit r' hmem)
  · intro c hc
    exact Meets.collect (fun r hr => meets_loadQuestion hplan (hc.1 r hr)) c hc.2

end Loads

/-- What is raised inside of a read, or told already. -/
theorem reported_of_inside {f : Failure} (h : Raised plan ns f ∨ Reported plan ns f) (m : String) :
    Reported plan ns (f.wrappedIn m) := by
  rcases h with h | h
  · exact .of_raised h m
  · exact h.wrappedIn m

theorem meets_listQuizzes (hplan : plan.Driven) : (listQuizzes plan).Meets
    (fun c => c.committed.Sound) (fun _ _ => True) (Reported plan ns) := by
  refine meets_reading (Meets.wrapping (R := fun _ => Connection.SeesSound) ?_ fun _ m h =>
    Reported.of_raised h m)
  refine Meets.bind (R := fun rs c => (∀ r ∈ rs, Fitting ns r.id) ∧ c.SeesSound)
    (Connection.meets_query hplan (fun t ht => ?_) ?_) fun records => ?_
  · rw [ht.allQuizzes]
    exact Tables.refuses_ok _
  · intro t records ht h r hr
    rw [ht.allQuizzes] at h
    cases h
    obtain ⟨row, hrow, rfl⟩ := List.mem_map.mp hr
    exact .of_fits (ht.quizzes_fit row hrow)
  · intro c hc
    exact Meets.collect (fun r hr => meets_loadQuiz hplan (hc.1 r hr)) c hc.2

theorem meets_getQuiz (hplan : plan.Driven) {i : Int} (hi : Fitting ns i) : (getQuiz plan i).Meets
    (fun c => c.committed.Sound) (fun _ _ => True) (Reported plan ns) := by
  refine meets_reading (Meets.wrapping (R := fun _ => Connection.SeesSound) ?_ fun _ m h =>
    reported_of_inside h m)
  refine Meets.bind ((Connection.meets_query (A := fun r? => ∀ r ∈ r?, r.id = i) hplan
    (fun t ht => Tables.quiz?_refuses ht hi) ?_).mono (fun _ h => h) (fun _ _ h => h)
      fun _ h => .inl h) fun record? => ?_
  · rintro t _ ht h r ⟨⟩
    exact id_of_quiz? h
  · cases record? with
    | none => exact meets_fail (.inr (.missing (.inl rfl) rfl))
    | some r =>
      intro c hc
      exact (meets_loadQuiz hplan (hc.1 r rfl ▸ hi)).mono (fun _ h => h) (fun _ _ h => h)
        (fun _ h => .inl h) c hc.2

theorem meets_getQuestion (hplan : plan.Driven) {i : Int} (hi : Fitting ns i) :
    (getQuestion plan i).Meets (fun c => c.committed.Sound) (fun _ _ => True) (Reported plan ns) := by
  refine meets_reading (Meets.wrapping (R := fun _ => Connection.SeesSound) ?_ fun _ m h =>
    reported_of_inside h m)
  refine Meets.bind ((Connection.meets_query (A := fun r? => ∀ r ∈ r?, r.id = i) hplan
    (fun t ht => Tables.question?_refuses hi) ?_).mono (fun _ h => h) (fun _ _ h => h)
      fun _ h => .inl h) fun row? => ?_
  · rintro t _ ht h r ⟨⟩
    obtain ⟨_, _, h⟩ := Except.bind_eq_ok.mp h
    have hfind := Except.pure_eq_ok.mp h
    simpa using List.find?_some hfind
  · cases row? with
    | none => exact meets_fail (.inr (.missing (.inl rfl) rfl))
    | some r =>
      intro c hc
      exact (meets_loadQuestion hplan (hc.1 r rfl ▸ hi)).mono (fun _ h => h) (fun _ _ h => h)
        (fun _ h => .inl h) c hc.2

/-! ## Operations -/

section Operations

variable {v : Quiz} {q : Question} {c : Connection}

theorem createQuiz_reports (hc : Orderly cond) (hs : c.committed.Sound) {y : Quiz × Connection}
    (h : createQuiz cond (v, c) = (.error e, y)) : Reported cond.plan v.forget.integers e := by
  unfold createQuiz at h
  rw [bind_of_ok (update_run _ _)] at h
  exact (meets_transacting hc.driven (meets_upsertQuiz hc)).error ⟨fun _ hn => .of_mem hn, hs⟩
    (error_of_announced h)

theorem updateQuiz_reports (hc : Orderly cond) (hs : c.committed.Sound) {y : Quiz × Connection}
    (h : updateQuiz cond (v, c) = (.error e, y)) : Reported cond.plan v.integers e := by
  unfold updateQuiz at h
  rw [bind_of_ok (read_run _)] at h
  dsimp only at h
  split at h
  · cases h
    exact .missing (.inr rfl) rfl
  · exact (meets_transacting hc.driven (meets_upsertQuiz hc)).error ⟨fun _ hn => .of_mem hn, hs⟩
      (error_of_announced h)

theorem createQuestion_reports (hplan : cond.plan.Driven) (hs : c.committed.Sound)
    {y : Question × Connection} (h : createQuestion cond (q, c) = (.error e, y)) :
    Reported cond.plan (q.quizId :: q.forget.integers) e := by
  have hwork : ((Question.reconciler cond.plan).upsert none).Meets _ _
      (Reported cond.plan (q.quizId :: q.forget.integers)) :=
    (Question.meets_reconciler hplan).upsert nofun
  unfold createQuestion at h
  rw [bind_of_ok (update_run _ _)] at h
  refine (meets_transacting hplan (J := fun r =>
    r.AllFitting (q.quizId :: q.forget.integers) ∧ Fitting (q.quizId :: q.forget.integers) r.quizId)
    (hwork.mono ?_ (fun _ _ h => h) fun _ h => h)).error ⟨⟨?_, ?_⟩, hs⟩ (error_of_announced h)
  · exact fun x hx => ⟨hx.1.1, fun _ => hx.1, hx.2⟩
  · exact fun _ hn => .of_mem (List.mem_cons_of_mem _ hn)
  · exact .of_mem List.mem_cons_self

theorem updateQuestion_reports (hplan : cond.plan.Driven) (hs : c.committed.Sound)
    {y : Question × Connection} (h : updateQuestion cond (q, c) = (.error e, y)) :
    Reported cond.plan q.integers e := by
  have hwork : ((Question.reconciler cond.plan).upsert none).Meets _ _
      (Reported cond.plan q.integers) := (Question.meets_reconciler hplan).upsert nofun
  unfold updateQuestion at h
  rw [bind_of_ok (read_run _)] at h
  dsimp only at h
  split at h
  · cases h
    exact .missing (.inr rfl) rfl
  · rename_i old
    refine (meets_transacting hplan (J := fun r => r.AllFitting q.integers ∧ r.id ≠ 0)
      (hwork.mono ?_ (fun _ _ h => h) fun _ h => h)).error ⟨⟨fun _ hn => .of_mem hn, old⟩, hs⟩
      (error_of_announced h)
    exact fun x hx => ⟨hx.1.1, fun new => absurd new hx.1.2, hx.2⟩

end Operations

end Store

/-! ## Requests -/

/-- A call of the store. -/
inductive Request
  | listQuizzes
  | getQuiz (id : Int)
  | getQuestion (id : Int)
  | createQuiz (quiz : Quiz)
  | updateQuiz (quiz : Quiz)
  | createQuestion (question : Question)
  | updateQuestion (question : Question)
  deriving DecidableEq, Repr

namespace Request

/-- Carry out a request and forget what it gives. -/
def run (cond : Conditions) : Request → Attempt Connection Unit
  | .listQuizzes => do
    let _ ← Store.listQuizzes cond.plan
  | .getQuiz id => do
    let _ ← Store.getQuiz cond.plan id
  | .getQuestion id => do
    let _ ← Store.getQuestion cond.plan id
  | .createQuiz quiz => (Store.createQuiz cond).upon quiz
  | .updateQuiz quiz => (Store.updateQuiz cond).upon quiz
  | .createQuestion question => (Store.createQuestion cond).upon question
  | .updateQuestion question => (Store.updateQuestion cond).upon question

/-- The ids and positions of a request that are bound in statements; a question is created under the quiz
that it names. -/
def integers : Request → List Int
  | .listQuizzes => []
  | .getQuiz id => [id]
  | .getQuestion id => [id]
  | .createQuiz quiz => quiz.forget.integers
  | .updateQuiz quiz => quiz.integers
  | .createQuestion question => question.quizId :: question.forget.integers
  | .updateQuestion question => question.integers

end Request

theorem Request.run_reports {cond : Conditions} (hc : Store.Orderly cond) (request : Request)
    {c c' : Connection} {e : Failure} (hs : c.committed.Sound)
    (h : request.run cond c = (.error e, c')) : Reported cond.plan request.integers e := by
  cases request with
  | listQuizzes =>
    rcases bind_eq_error.mp h with h | ⟨_, _, _, h⟩
    · exact (Store.meets_listQuizzes hc.driven).error hs h
    · cases h
  | getQuiz i =>
    rcases bind_eq_error.mp h with h | ⟨_, _, _, h⟩
    · exact (Store.meets_getQuiz hc.driven (.of_mem List.mem_cons_self)).error hs h
    · cases h
  | getQuestion i =>
    rcases bind_eq_error.mp h with h | ⟨_, _, _, h⟩
    · exact (Store.meets_getQuestion hc.driven (.of_mem List.mem_cons_self)).error hs h
    · cases h
  | createQuiz v =>
    obtain ⟨_, h⟩ := (upon_eq_error (a := Store.createQuiz cond)).mp h
    exact Store.createQuiz_reports hc hs h
  | updateQuiz v =>
    obtain ⟨_, h⟩ := (upon_eq_error (a := Store.updateQuiz cond)).mp h
    exact Store.updateQuiz_reports hc hs h
  | createQuestion q =>
    obtain ⟨_, h⟩ := (upon_eq_error (a := Store.createQuestion cond)).mp h
    exact Store.createQuestion_reports hc.driven hs h
  | updateQuestion q =>
    obtain ⟨_, h⟩ := (upon_eq_error (a := Store.updateQuestion cond)).mp h
    exact Store.updateQuestion_reports hc.driven hs h

/-- Whatever is asked of a store that can be reached, it reports what goes wrong as a store error, with
the driver's error as the cause if there was one, unless an integer of the request does not fit. -/
theorem Request.reports {cond : Conditions} (hc : Store.Orderly cond) {t : Tables} (ht : Reachable t)
    (request : Request) {e : Failure} (h : (request.run cond (.onto t)).1 = .error e) :
    Reported cond.plan request.integers e := by
  rcases hr : request.run cond (.onto t) with ⟨r, c'⟩
  rw [hr] at h
  obtain rfl : r = .error e := h
  exact request.run_reports hc ht.sound hr

/-- Not everything that goes wrong is a store error: asked for a quiz whose id does not fit, the store
lets the overflow pass. -/
theorem Request.overflows : ¬ ∀ t, Reachable t → ∀ (request : Request) (e : Failure),
    (request.run .calm (.onto t)).1 = .error e → ∃ d, e = .store d := by
  intro h
  obtain ⟨d, hd⟩ := h .empty .empty (.getQuiz 9223372036854775808) .overflow (by decide +kernel)
  cases hd

/-- A slug that is taken, a quiz that is not there, and an id that does not fit. -/
theorem Request.reports_demo :
    Reported .quiet [0] (.store (.because "failed to create quiz (title: 'Copy')"
      (.violation .slugTaken))) ∧
    Reported .quiet [7] (.store (.quizNotFound 7)) ∧
    Reported .quiet [9223372036854775808] .overflow := by
  have hc : Store.Orderly .calm := ⟨⟨_, rfl⟩, Plan.driven_quiet⟩
  have rejected : (Request.run .calm (.createQuiz (.new "Copy" "quiz-1" "" [])) (.onto .demo)).1 =
      .error (.store (.because "failed to create quiz (title: 'Copy')" (.violation .slugTaken))) := by
    decide +kernel
  have missing : (Request.run .calm (.getQuiz 7) (.onto .demo)).1 =
      .error (.store (.quizNotFound 7)) := by decide +kernel
  have unfit : (Request.run .calm (.getQuiz 9223372036854775808) (.onto .demo)).1 =
      .error .overflow := by decide +kernel
  exact ⟨Request.reports hc reachable_demo _ rejected, Request.reports hc reachable_demo _ missing,
    Request.reports hc reachable_demo _ unfit⟩

end TriviaStore
