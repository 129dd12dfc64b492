import TriviaStore.Proofs.Connection.Success
import TriviaStore.Proofs.Reconcile.Keeps
import TriviaStore.Proofs.Transaction.Shield
import TriviaStore.Proofs.Store.Operation

/-! # What the store keeps

A property of tables that every single statement keeps is kept by every write, by every batch of
reconciliations and by reading, under any plan of disturbances and whatever the outcome. Writes only
ever work on the session's tables: what is committed changes with a commit that succeeds and at no
other point.
-/

namespace TriviaStore

open Attempt

/-- Every statement that changes questions or choices keeps the property. -/
structure Tables.ClosedBelow (P : Tables → Prop) : Prop where
  insertQuestion {t t' : Tables} {quizId text imageUrl position id} :
    P t → t.insertQuestion quizId text imageUrl position = .ok (id, t') → P t'
  updateQuestion {t t' : Tables} {id quizId text imageUrl position n} :
    P t → t.updateQuestion id quizId text imageUrl position = .ok (n, t') → P t'
  deleteQuestion {t t' : Tables} {id n} : P t → t.deleteQuestion id = .ok (n, t') → P t'
  insertChoice {t t' : Tables} {questionId text correct id} :
    P t → t.insertChoice questionId text correct = .ok (id, t') → P t'
  updateChoice {t t' : Tables} {id questionId text correct n} :
    P t → t.updateChoice id questionId text correct = .ok (n, t') → P t'
  deleteChoice {t t' : Tables} {id n} : P t → t.deleteChoice id = .ok (n, t') → P t'

/-- Every statement that changes rows keeps the property; a quiz is inserted at the time of a clock,
which shows a moment of the calendar. -/
structure Tables.ClosedAt (clock : Instant) (P : Tables → Prop) : Prop extends
    Tables.ClosedBelow P where
  insertQuiz {t t' : Tables} {now : Moment} {title slug description id} :
    Moment.now? clock = some now → P t →
      t.insertQuiz title slug description now.toMillis = .ok (id, t') → P t'
  updateQuiz {t t' : Tables} {id title slug description n} :
    P t → t.updateQuiz id title slug description = .ok (n, t') → P t'

/-- What is said of a connection: one thing of the committed tables, one of the session's. -/
structure Connection.Holds (K P : Tables → Prop) (c : Connection) : Prop where
  committed : K c.committed
  working : P c.working

variable {K P : Tables → Prop} {plan : Plan Statement}

section Statements

variable {α : Type}

theorem Connection.keeps_issue {s : Statement} {act : Connection → Except Failure α × Connection}
    (ha : ∀ c, Holds K P c → Holds K P (act c).2) : (issue plan s act).Keeps (Holds K P) := by
  intro c hc
  have hc' : Holds K P { c with issued := c.issued ++ [s] } := ⟨hc.committed, hc.working⟩
  unfold Connection.issue
  split
  · exact hc'
  · exact ha _ hc'

theorem Connection.keeps_query (table : Table) (read : Tables → Except Failure α) :
    (query plan table read).Keeps (Holds K P) := keeps_issue fun _ hc => hc

theorem Connection.holds_apply {change : Tables → Except Failure (α × Tables)} {c : Connection}
    (h : ∀ {t a t'}, P t → change t = .ok (a, t') → P t') (hc : Holds K P c) :
    Holds K P (apply change c).2 := by
  unfold Connection.apply
  split
  · rename_i hr
    exact ⟨hc.committed, h hc.working hr⟩
  · exact hc

theorem Connection.keeps_insert {table : Table} {change : Tables → Except Failure (Int × Tables)}
    (h : ∀ {t id t'}, P t → change t = .ok (id, t') → P t') :
    (insert plan table change).Keeps (Holds K P) := keeps_issue fun _ hc => holds_apply h hc

theorem Connection.keeps_write {s : Statement} {change : Tables → Except Failure (Nat × Tables)}
    (h : ∀ {t n t'}, P t → change t = .ok (n, t') → P t') :
    (write plan s change).Keeps (Holds K P) := by
  intro c hc
  unfold Connection.write
  split
  · exact ⟨hc.committed, hc.working⟩
  · exact keeps_issue (fun _ hc => holds_apply h hc) c hc

theorem Connection.holds_note (e : Event) (c : Connection) (hc : Holds K P c) :
    Holds K P (c.note e) := ⟨hc.committed, hc.working⟩

theorem Connection.holds_refresh (hKP : ∀ t, K t → P t) (c : Connection) (hc : Holds K P c) :
    Holds K P c.refresh := ⟨hc.committed, hKP _ hc.committed⟩

theorem Connection.keeps_reading {read : Attempt Connection α} (hKP : ∀ t, K t → P t)
    (h : read.Keeps (Holds K P)) : (reading read).Keeps (Holds K P) :=
  fun c hc => holds_refresh hKP _ (h _ (holds_refresh hKP c hc))

theorem Connection.session_closes : (session plan).Closes := fun _ => rfl

theorem Connection.session_shields (hKP : ∀ t, K t → P t) :
    (session plan).Shields (Holds K P) where
  acquire := keeps_update (holds_refresh hKP)
  begin := keeps_issue fun _ hc => hc
  rollback := keeps_issue (holds_refresh hKP)
  close := keeps_update (holds_refresh hKP)
  note := holds_note
  commit_error c e c' hc h := by
    simp only [session, issue] at h
    split at h <;> cases h
    exact ⟨hc.committed, hc.working⟩

theorem Connection.keeps_commit (hPK : ∀ t, P t → K t) :
    (session plan).commit.Keeps (Holds K P) := keeps_issue fun _ hc => ⟨hPK _ hc.working, hc.working⟩

end Statements

section Children

theorem keeps_assigning {τ : Type} {insert : τ → Attempt Connection Int} {set : Int → τ → τ}
    (h : ∀ x, (insert x).Keeps (Connection.Holds K P)) :
    (assigning insert set).Keeps (OnSecond (Connection.Holds K P)) := by
  intro x hx
  show Connection.Holds K P (assigning insert set x).2.2
  rw [assigning_connection]
  exact h x.1 x.2 hx

theorem Choice.reconciler_keeps (h : Tables.ClosedBelow P) :
    (Choice.reconciler plan).Keeps (Connection.Holds K P) where
  existing _ := Connection.keeps_query _ _
  reset := keeps_pure ()
  create := keeps_assigning fun _ => Connection.keeps_insert h.insertChoice
  update _ := fun p hp => Connection.keeps_write h.updateChoice p.2 hp
  delete _ := Connection.keeps_write h.deleteChoice
  descend := keeps_pure ()
  note := Connection.holds_note

theorem Question.keeps_findOwner :
    (Question.findOwner plan).Keeps (OnSecond (Connection.Holds K P)) := by
  intro x hx
  show Connection.Holds K P (Question.findOwner plan x).2.2
  rw [Question.findOwner_connection]
  exact Connection.keeps_query _ _ x.2 hx

theorem Question.keeps_update (h : Tables.ClosedBelow P) (parent : Option Int) :
    (Question.update plan parent).Keeps (OnSecond (Connection.Holds K P)) := by
  refine keeps_read.bind fun ⟨q, _⟩ => ?_
  refine (Connection.keeps_write h.updateQuestion).onSecond.bind fun rows => ?_
  dsimp only
  split
  · exact Question.keeps_findOwner.bind fun _ => keeps_pure rows
  · exact keeps_pure rows

theorem Question.keeps_reconcileChoices (h : Tables.ClosedBelow P) :
    (Question.reconcileChoices plan).Keeps (OnSecond (Connection.Holds K P)) :=
  fun p hp => (Choice.reconciler_keeps h).reconcile p.1.id (p.1.choices, p.2) hp

theorem Question.reconciler_keeps (h : Tables.ClosedBelow P) :
    (Question.reconciler plan).Keeps (Connection.Holds K P) where
  existing _ := Connection.keeps_query _ _
  reset := Attempt.keeps_update fun _ hp => hp
  create := keeps_assigning fun _ => Connection.keeps_insert h.insertQuestion
  update := Question.keeps_update h
  delete _ := Connection.keeps_write h.deleteQuestion
  descend := Question.keeps_reconcileChoices h
  note := Connection.holds_note

end Children

/-! ## Writes -/

section Writes

variable {cond : Conditions}

theorem Store.keeps_insertQuiz (h : Tables.ClosedAt cond.clock P) :
    (Store.insertQuiz cond).Keeps (OnSecond (Connection.Holds K P)) := by
  intro x hx
  rcases hnow : Moment.now? cond.clock with _ | now
  · rw [Store.insertQuiz_undated hnow]
    exact hx
  · show Connection.Holds K P (Store.insertQuiz cond x).2.2
    rw [Store.insertQuiz_connection hnow]
    exact Connection.keeps_insert (h.insertQuiz hnow) x.2 hx

theorem Store.keeps_overwriteQuiz (h : Tables.ClosedAt cond.clock P) :
    (Store.overwriteQuiz cond).Keeps (OnSecond (Connection.Holds K P)) := by
  refine keeps_read.bind fun ⟨q, _⟩ => ?_
  refine (Connection.keeps_write h.updateQuiz).wrapping.onSecond.bind fun rows => ?_
  split
  · exact keeps_fail _
  · exact keeps_pure ()

theorem Store.keeps_reconcileQuestions (h : Tables.ClosedBelow P) :
    (Store.reconcileQuestions cond).Keeps (OnSecond (Connection.Holds K P)) :=
  fun p hp => (Question.reconciler_keeps h).reconcile p.1.id (p.1.questions, p.2) hp

theorem Store.keeps_upsertQuiz (h : Tables.ClosedAt cond.clock P) :
    (Store.upsertQuiz cond).Keeps (OnSecond (Connection.Holds K P)) := by
  refine keeps_read.bind fun ⟨q, _⟩ => ?_
  have hr : ∀ m, ((Store.reconcileQuestions cond).inContext m).Keeps
      (OnSecond (Connection.Holds K P)) :=
    fun m => (Store.keeps_reconcileQuestions h.toClosedBelow).inContext
  dsimp only
  split
  · exact (Store.keeps_insertQuiz h).bind fun _ => hr _
  · exact (Store.keeps_overwriteQuiz h).bind fun _ => hr _

theorem Task.keeps_run (h : Tables.ClosedBelow P) :
    (Task.run plan).Keeps (OnSecond (OnSecond (Connection.Holds K P))) := by
  rintro ⟨task, answers, c⟩ hc
  have h₁ : Connection.Holds K P (task.perform plan c).2.2 := by
    cases task with
    | reconcileQuestions p cs => exact (Question.reconciler_keeps h).reconcile p (cs, c) hc
    | reconcileChoices p cs => exact (Choice.reconciler_keeps h).reconcile p (cs, c) hc
    | upsertQuestion p q => exact (Question.reconciler_keeps h).upsert p (q, c) hc
    | upsertChoice p q => exact (Choice.reconciler_keeps h).upsert p (q, c) hc
  dsimp only [Task.run]
  split <;> rename_i hr <;> rwa [hr] at h₁

/-- The work of a batch. -/
theorem Store.keeps_tasks (h : Tables.ClosedBelow P) (failing : Option Failure) :
    (do
      let (tasks, _) ← Attempt.read
      Attempt.each (Task.run plan)
      match failing with
      | some e => .fail e
      | none => pure tasks.length :
        Attempt (List Task × Answering) Nat).Keeps (OnSecond (OnSecond (Connection.Holds K P))) := by
  refine keeps_read.bind fun ⟨tasks, _⟩ => (Task.keeps_run h).each.bind fun _ => ?_
  cases failing with
  | some e => exact keeps_fail e
  | none => exact keeps_pure _

theorem Store.keeps_transacting {τ : Type} {work : Attempt (τ × Connection) Unit}
    (hw : work.Keeps (OnSecond (Connection.Holds P P))) :
    (Store.transacting plan work).Keeps (OnSecond (Connection.Holds P P)) :=
  ((Connection.session_shields fun _ h => h).alongside).transaction hw
    (Connection.keeps_commit fun _ h => h).onSecond

theorem Store.keeps_announce {τ : Type} (event : τ → Event) :
    (Store.announce event).Keeps (OnSecond (Connection.Holds K P)) :=
  keeps_update fun p hp => Connection.holds_note _ p.2 hp

theorem Store.keeps_createQuiz (h : Tables.ClosedAt cond.clock P) :
    (Store.createQuiz cond).Keeps (OnSecond (Connection.Holds P P)) := by
  have hf : (Attempt.update fun p : Quiz × Connection => (p.1.forget, p.2)).Keeps
      (OnSecond (Connection.Holds P P)) := keeps_update fun _ hp => hp
  exact hf.bind fun _ => (Store.keeps_transacting (Store.keeps_upsertQuiz h)).bind fun _ =>
    Store.keeps_announce _

theorem Store.keeps_updateQuiz (h : Tables.ClosedAt cond.clock P) :
    (Store.updateQuiz cond).Keeps (OnSecond (Connection.Holds P P)) := by
  refine keeps_read.bind fun ⟨q, _⟩ => ?_
  have ht : (do
      Store.transacting cond.plan (Store.upsertQuiz cond)
      Store.announce fun q => .quizUpdated q.id).Keeps (OnSecond (Connection.Holds P P)) :=
    (Store.keeps_transacting (Store.keeps_upsertQuiz h)).bind fun _ => Store.keeps_announce _
  dsimp only
  split
  · exact (keeps_fail _).bind fun _ => ht
  · exact ht

theorem Store.keeps_createQuestion (h : Tables.ClosedBelow P) :
    (Store.createQuestion cond).Keeps (OnSecond (Connection.Holds P P)) := by
  have hf : (Attempt.update fun p : Question × Connection => (p.1.forget, p.2)).Keeps
      (OnSecond (Connection.Holds P P)) := keeps_update fun _ hp => hp
  exact hf.bind fun _ =>
    (Store.keeps_transacting ((Question.reconciler_keeps h).upsert none)).bind fun _ =>
      Store.keeps_announce _

theorem Store.keeps_updateQuestion (h : Tables.ClosedBelow P) :
    (Store.updateQuestion cond).Keeps (OnSecond (Connection.Holds P P)) := by
  refine keeps_read.bind fun ⟨q, _⟩ => ?_
  have ht : (do
      Store.transacting cond.plan ((Question.reconciler cond.plan).upsert none)
      Store.announce fun q => .questionUpdated q.id).Keeps (OnSecond (Connection.Holds P P)) :=
    (Store.keeps_transacting ((Question.reconciler_keeps h).upsert none)).bind
      fun _ => Store.keeps_announce _
  dsimp only
  split
  · exact (keeps_fail _).bind fun _ => ht
  · exact ht

theorem Store.keeps_batch (h : Tables.ClosedBelow P) (failing : Option Failure) :
    (Store.batch plan failing).Keeps (OnSecond (OnSecond (Connection.Holds P P))) :=
  ((Connection.session_shields fun _ h => h).alongside).alongside.transaction
    (Store.keeps_tasks h failing)
      (Connection.keeps_commit fun _ h => h).onSecond.onSecond

theorem Write.keeps_run (h : Tables.ClosedAt cond.clock P) (w : Write) :
    (w.run cond).Keeps (Connection.Holds P P) := by
  cases w with
  | createQuiz q => exact (Store.keeps_createQuiz h).upon q
  | updateQuiz q => exact (Store.keeps_updateQuiz h).upon q
  | createQuestion q => exact (Store.keeps_createQuestion h.toClosedBelow).upon q
  | updateQuestion q => exact (Store.keeps_updateQuestion h.toClosedBelow).upon q
  | batch tasks failing =>
    exact (((Store.keeps_batch h.toClosedBelow failing).upon tasks).upon []).bind fun _ => keeps_pure ()

end Writes

/-! ## Operations -/

section Operations

variable {cond : Conditions}

theorem Store.keeps_loadChoices (questionId : Int) :
    (Store.loadChoices plan questionId).Keeps (Connection.Holds K P) :=
  (Connection.keeps_query _ _).bind fun _ => keeps_pure _

theorem Store.keeps_loadQuestion (row : QuestionRow) :
    (Store.loadQuestion plan row).Keeps (Connection.Holds K P) :=
  (Store.keeps_loadChoices row.id).bind fun _ => keeps_pure _

theorem Store.keeps_loadQuiz (record : QuizRecord) :
    (Store.loadQuiz plan record).Keeps (Connection.Holds K P) :=
  ((Connection.keeps_query _ _).bind fun rows => .collect Store.keeps_loadQuestion rows).bind
    fun _ => keeps_pure _

theorem Store.keeps_listQuizzes (hKP : ∀ t, K t → P t) :
    (Store.listQuizzes plan).Keeps (Connection.Holds K P) :=
  Connection.keeps_reading hKP
    ((Connection.keeps_query _ _).bind fun rows => .collect Store.keeps_loadQuiz rows).wrapping

theorem Store.keeps_creating (h : Tables.ClosedAt cond.clock P) (q : Quiz) :
    (Store.creating cond q).Keeps (Connection.Holds P P) := by
  intro c hc
  have h₁ : Connection.Holds P P (Store.createQuiz cond (q, c)).2.2 := Store.keeps_createQuiz h _ hc
  dsimp only [Store.creating]
  split <;> rename_i hr <;> rwa [hr] at h₁

theorem Store.keeps_createMissing (taken : List (Option String)) {qs : List Quiz}
    (h : ∀ q ∈ qs, (Store.creating cond q).Keeps (Connection.Holds K P)) :
    (Store.createMissing cond taken qs).Keeps (Connection.Holds K P) := by
  induction qs with
  | nil => exact keeps_pure []
  | cons q qs ih =>
    have ih := ih fun q hq => h q (List.mem_cons_of_mem _ hq)
    unfold Store.createMissing
    split
    · exact (keeps_update (Connection.holds_note _)).bind fun _ => ih
    · exact (h q List.mem_cons_self).bind fun _ => ih.bind fun _ => keeps_pure _

/-- Seeding keeps what the creation of each demonstration quiz keeps. -/
theorem Store.keeps_seed (hKP : ∀ t, K t → P t)
    (h : ∀ q ∈ demoQuizzes, (Store.creating cond q).Keeps (Connection.Holds K P)) :
    (Store.seed cond).Keeps (Connection.Holds K P) :=
  (Store.keeps_listQuizzes hKP).bind fun _ => (Store.keeps_createMissing _ h).bind
    fun _ => (keeps_update (Connection.holds_note _)).bind fun _ => keeps_pure _

theorem Operation.keeps_run (h : Tables.ClosedAt cond.clock P) (op : Operation) :
    (op.run cond).Keeps (Connection.Holds P P) := by
  cases op with
  | write w => exact w.keeps_run h
  | seed =>
    have hseed : (Store.seed cond).Keeps (Connection.Holds P P) :=
      Store.keeps_seed (fun _ h => h) fun q _ => Store.keeps_creating h q
    exact hseed.bind fun _ => keeps_pure ()

/-- What every statement keeps holds of every reachable store, if it holds without any rows. -/
theorem Reachable.of_closed (h : ∀ clock, Tables.ClosedAt clock P) (he : P .empty) {t : Tables}
    (ht : Reachable t) : P t := by
  induction ht with
  | empty => exact he
  | step cond op _ ih => exact (op.keeps_run (h cond.clock) (.onto _) ⟨ih, ih⟩).committed

end Operations

end TriviaStore
