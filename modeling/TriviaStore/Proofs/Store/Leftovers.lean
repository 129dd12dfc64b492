import TriviaStore.Proofs.Reconcile.Leftovers
import TriviaStore.Proofs.Store.Origin
import TriviaStore.Proofs.Store.Reported
import TriviaStore.Proofs.Store.Views
import TriviaStore.Proofs.Tables.Refusal
import TriviaStore.Proofs.Transaction.Failing

/-! # Leftovers

Every deletion that a write comes to is one of a row that was left over under its parent, and whatever has
been done in the same transaction before it, the row is still stored there. Hence deleting cannot fail by
itself: that a row is not there, or that there is no transaction, is only ever told if a call was disturbed.
-/

namespace TriviaStore

open Attempt

variable {plan : Plan Statement} {cond : Conditions} {c c' : Connection} {p i : Int}
  {parent : Option Int}

/-- A row that is left over under a parent. -/
inductive Leftover
  | question (quizId id : Int)
  | choice (questionId id : Int)
  deriving DecidableEq, Repr

namespace Leftover

def table : Leftover → Table
  | .question _ _ => .questions
  | .choice _ _ => .choices

/-- The row is stored under its parent. -/
def StoredIn (t : Tables) : Leftover → Prop
  | .question quizId id => ∃ r ∈ t.questions, r.id = id ∧ r.quizId = quizId
  | .choice questionId id => ∃ r ∈ t.choices, r.id = id ∧ r.questionId = questionId

end Leftover

/-! ## What is deleted, and when

Each relation says which row is about to be deleted, and what the connection is like at that moment.
-/

/-- An upsert of a question gets to deleting a choice below it. -/
inductive Question.UpsertDeletes (plan : Plan Statement) (parent : Option Int)
    (x : Question × Connection) : Leftover → Connection → Prop
  | below {q : Question} {c c' : Connection} {i : Int}
      (writes : (reconciler plan).Writes parent x (q, c))
      (deletes : (Choice.reconciler plan).Deletes q.id q.choices c i c') :
      UpsertDeletes plan parent x (.choice q.id i) c'

/-- A reconciliation of questions gets to deleting one of them, or a choice below one that it places. -/
inductive Question.ReconcileDeletes (plan : Plan Statement) (p : Int) (qs : List Question)
    (c : Connection) : Leftover → Connection → Prop
  | own {i : Int} {c' : Connection} (deletes : (reconciler plan).Deletes p qs c i c') :
      ReconcileDeletes plan p qs c (.question p i) c'
  | below {done rest : List Question} {q : Question} {c₁ c' : Connection} {d : Leftover}
      (reaches : (reconciler plan).Reaches p qs c done q rest c₁)
      (deletes : UpsertDeletes plan (some p) ((reconciler plan).attach p q, c₁) d c') :
      ReconcileDeletes plan p qs c d c'

inductive Store.UpsertDeletes (cond : Conditions) (x : Quiz × Connection) :
    Leftover → Connection → Prop
  | below {v : Quiz} {c c' : Connection} {d : Leftover} (written : writeQuiz cond x = (.ok (), (v, c)))
      (deletes : Question.ReconcileDeletes cond.plan v.id v.questions c d c') : UpsertDeletes cond x d c'

inductive Task.Deletes (plan : Plan Statement) (c : Connection) :
    Task → Leftover → Connection → Prop
  | reconcileQuestions {p : Int} {qs : List Question} {d : Leftover} {c' : Connection}
      (deletes : Question.ReconcileDeletes plan p qs c d c') :
      Deletes plan c (.reconcileQuestions p qs) d c'
  | reconcileChoices {p i : Int} {xs : List Choice} {c' : Connection}
      (deletes : (Choice.reconciler plan).Deletes p xs c i c') :
      Deletes plan c (.reconcileChoices p xs) (.choice p i) c'
  | upsertQuestion {parent : Option Int} {q : Question} {d : Leftover} {c' : Connection}
      (deletes : Question.UpsertDeletes plan parent (q, c) d c') :
      Deletes plan c (.upsertQuestion parent q) d c'

/-- The connection when a transaction has begun. -/
def Connection.Begun (plan : Plan Statement) (c c₁ : Connection) : Prop :=
  (session plan).begin c.refresh = (.ok (), c₁)

/-- A write gets to deleting a row in its transaction. -/
inductive Write.Deletes (cond : Conditions) (c : Connection) : Write → Leftover → Connection → Prop
  | createQuiz {v : Quiz} {c₁ c' : Connection} {d : Leftover} (begun : c.Begun cond.plan c₁)
      (deletes : Store.UpsertDeletes cond (v.forget, c₁) d c') : Deletes cond c (.createQuiz v) d c'
  | updateQuiz {v : Quiz} {c₁ c' : Connection} {d : Leftover} (old : v.id ≠ 0)
      (begun : c.Begun cond.plan c₁)
      (deletes : Store.UpsertDeletes cond (v, c₁) d c') : Deletes cond c (.updateQuiz v) d c'
  | createQuestion {q : Question} {c₁ c' : Connection} {d : Leftover} (begun : c.Begun cond.plan c₁)
      (deletes : Question.UpsertDeletes cond.plan none (q.forget, c₁) d c') :
      Deletes cond c (.createQuestion q) d c'
  | updateQuestion {q : Question} {c₁ c' : Connection} {d : Leftover} (old : q.id ≠ 0)
      (begun : c.Begun cond.plan c₁)
      (deletes : Question.UpsertDeletes cond.plan none (q, c₁) d c') :
      Deletes cond c (.updateQuestion q) d c'
  | batch {front done rest : List Task} {task : Task} {failing : Option Failure}
      {answers : List Task.Answer} {c₁ c₂ c' : Connection} {d : Leftover} (begun : c.Begun cond.plan c₁)
      (performed : eachOf (Task.run cond.plan) front ([], c₁) = (.ok (), (done, (answers, c₂))))
      (deletes : task.Deletes cond.plan c₂ d c') :
      Deletes cond c (.batch (front ++ task :: rest) failing) d c'

/-! ## Every deletion among the statements -/

/-- What is known of a deletion: a leftover of a kind is about to be deleted from its table. -/
def Foreseen (R : Leftover → Connection → Prop) (past : List Statement) (table : Table) : Prop :=
  ∃ d c', R d c' ∧ d.table = table ∧ c'.issued = past

theorem Foreseen.mono {R S : Leftover → Connection → Prop} (h : ∀ d c', R d c' → S d c')
    {past : List Statement} {table : Table} : Foreseen R past table → Foreseen S past table := by
  rintro ⟨d, c', hR, hd⟩
  exact ⟨d, c', h d c' hR, hd⟩

theorem accounts_assigning {τ : Type} {insert : τ → Attempt Connection Int} {set : Int → τ → τ}
    {x : τ × Connection} {D : List Statement → Table → Prop}
    (h : (insert x.1).Accounts Connection.issued x.2 D) :
    (assigning insert set).Accounts (Behind Connection.issued) x D := by
  show Accounted x.2.issued (assigning insert set x).2.2.issued D
  rw [assigning_connection]
  exact h

namespace Choice

theorem reconciler_logs : (reconciler plan).Logs Connection.issued .choices where
  existing := Connection.accounts_query
  reset := accounts_of_same rfl
  create := accounts_assigning Connection.accounts_insert
  update {parent x D} := by
    have hwrite : (Connection.write plan (.update .choices)
        (Tables.updateChoice x.1.id parent x.1.text x.1.correct)).Accounts Connection.issued x.2 D :=
      Connection.accounts_write nofun
    exact hwrite
  delete _ _ := Connection.write_issued
  note _ _ := rfl

theorem accounts_reconcile {xs : List Choice} {D : List Statement → Table → Prop}
    (h : ∀ i c', (reconciler plan).Deletes p xs c i c' → D c'.issued .choices) :
    ((reconciler plan).reconcile p).Accounts (Behind Connection.issued) (xs, c) D :=
  reconciler_logs.reconcile h fun _ _ _ _ _ _ _ => accounts_of_same rfl

end Choice

namespace Question

theorem accounts_findOwner {x : Question × Connection} {D : List Statement → Table → Prop} :
    (findOwner plan).Accounts (Behind Connection.issued) x D := by
  have hfind : (Connection.query plan .questions (Tables.question? x.1.id)).Accounts
      Connection.issued x.2 D := Connection.accounts_query
  show Accounted x.2.issued (findOwner plan x).2.2.issued D
  rw [findOwner_connection]
  exact hfind

theorem accounts_update {x : Question × Connection} {D : List Statement → Table → Prop} :
    (update plan parent).Accounts (Behind Connection.issued) x D := by
  refine Accounts.bind (accounts_of_same rfl) fun _ _ hread => ?_
  cases hread
  dsimp only
  refine Accounts.bind (Accounts.onSecond (Connection.accounts_write nofun) _) fun n _ _ => ?_
  split
  · exact accounts_findOwner.bind fun _ _ _ => accounts_of_same rfl
  · exact accounts_of_same rfl

theorem reconciler_logs : (reconciler plan).Logs Connection.issued .questions where
  existing := Connection.accounts_query
  reset := accounts_of_same rfl
  create := accounts_assigning Connection.accounts_insert
  update := accounts_update
  delete _ _ := Connection.write_issued
  note _ _ := rfl

theorem accounts_descend {q : Question} {D : List Statement → Table → Prop}
    (h : ∀ i c', (Choice.reconciler plan).Deletes q.id q.choices c i c' → D c'.issued .choices) :
    (reconciler plan).descend.Accounts (Behind Connection.issued) (q, c) D := by
  have hbelow : Accounted c.issued
    ((Choice.reconciler plan).reconcile q.id (q.choices, c)).2.2.issued D := Choice.accounts_reconcile h
  exact hbelow

theorem accounts_upsert (x : Question × Connection) :
    ((reconciler plan).upsert parent).Accounts (Behind Connection.issued) x
      (Foreseen (UpsertDeletes plan parent x)) :=
  reconciler_logs.upsert fun ⟨_, _⟩ writes => accounts_descend fun _ c' deletes =>
    ⟨_, c', .below writes deletes, rfl, rfl⟩

theorem accounts_reconcile (qs : List Question) (c : Connection) :
    ((reconciler plan).reconcile p).Accounts (Behind Connection.issued) (qs, c)
      (Foreseen (ReconcileDeletes plan p qs c)) :=
  reconciler_logs.reconcile (fun _ c' deletes => ⟨_, c', .own deletes, rfl, rfl⟩)
    fun _ _ _ _ ⟨_, _⟩ reaches writes => accounts_descend fun _ c' deletes =>
      ⟨_, c', .below reaches (.below writes deletes), rfl, rfl⟩

end Question

namespace Store

theorem accounts_writeQuiz {x : Quiz × Connection} {D : List Statement → Table → Prop} :
    (writeQuiz cond).Accounts (Behind Connection.issued) x D := by
  obtain ⟨v, c⟩ := x
  show Accounted c.issued (writeQuiz cond (v, c)).2.2.issued D
  unfold writeQuiz
  split
  · rcases hnow : Moment.now? cond.clock with _ | now
    · rw [insertQuiz_undated hnow]
      exact .refl _
    · have hinsert : (Connection.insert cond.plan .quizzes
          (Tables.insertQuiz v.title v.slug v.description now.toMillis)).Accounts
            Connection.issued c D := Connection.accounts_insert
      rw [insertQuiz_connection hnow]
      exact hinsert
  · have hoverwrite : (overwriteQuiz cond).Accounts (Behind Connection.issued) (v, c) D := by
      refine Accounts.bind (accounts_of_same rfl) fun _ _ hread => ?_
      cases hread
      dsimp only
      refine Accounts.bind (Accounts.onSecond (Connection.accounts_write nofun).wrapping _)
        fun n _ _ => ?_
      split <;> exact accounts_of_same rfl
    exact hoverwrite

theorem accounts_upsertQuiz (x : Quiz × Connection) :
    (upsertQuiz cond).Accounts (Behind Connection.issued) x (Foreseen (UpsertDeletes cond x)) := by
  rw [upsertQuiz_eq]
  refine accounts_writeQuiz.bind fun _ ⟨v, c⟩ written => Accounts.inContext ?_
  have hbelow : Accounted c.issued
      ((Question.reconciler cond.plan).reconcile v.id (v.questions, c)).2.2.issued
        (Foreseen (UpsertDeletes cond x)) :=
    (Question.accounts_reconcile v.questions c).mono fun _ _ =>
      Foreseen.mono fun _ _ deletes => .below written deletes
  exact hbelow

theorem begun_of_session {τ : Type} {x : τ} {s₁ s₂ : τ × Connection}
    (hacquire : (Connection.session plan).alongside.acquire (x, c) = (.ok (), s₁))
    (hbegin : (Connection.session plan).alongside.begin s₁ = (.ok (), s₂)) :
    ∃ c₁, c.Begun plan c₁ ∧ s₂ = (x, c₁) := by
  obtain ⟨y, c₁⟩ := s₂
  cases hacquire
  obtain ⟨hbegun, rfl⟩ := onSecond_eq_ok.mp hbegin
  exact ⟨c₁, hbegun, rfl⟩

theorem accounts_transacting {τ : Type} {work : Attempt (τ × Connection) Unit} {x : τ}
    {D : List Statement → Table → Prop}
    (h : ∀ c₁, c.Begun plan c₁ → work.Accounts (Behind Connection.issued) (x, c₁) D) :
    (transacting plan work).Accounts (Behind Connection.issued) (x, c) D := by
  refine (Connection.session_logs plan).alongside.transaction fun s₁ s₂ hacquire hbegin => ?_
  obtain ⟨c₁, hbegun, rfl⟩ := begun_of_session hacquire hbegin
  exact h c₁ hbegun

/-- Announcing deletes nothing. -/
theorem accounts_announced {τ : Type} {work : Attempt (τ × Connection) Unit} {event : τ → Event}
    {x : τ × Connection} {D : List Statement → Table → Prop}
    (h : work.Accounts (Behind Connection.issued) x D) :
    (work >>= fun _ => announce event).Accounts (Behind Connection.issued) x D :=
  h.bind fun _ _ _ => accounts_of_same rfl

end Store

theorem Task.accounts_run (task : Task) (answers : List Task.Answer) (c : Connection) :
    (Task.run plan).Accounts (Behind (Behind Connection.issued)) (task, (answers, c))
      (Foreseen (task.Deletes plan c)) := by
  have hperform : Accounted c.issued (task.perform plan c).2.2.issued
      (Foreseen (task.Deletes plan c)) := by
    cases task with
    | reconcileQuestions p qs =>
      exact Accounted.mono (Question.accounts_reconcile qs c) fun _ _ =>
        Foreseen.mono fun _ _ => .reconcileQuestions
    | reconcileChoices p xs =>
      have hown : ((Choice.reconciler plan).reconcile p).Accounts (Behind Connection.issued) (xs, c)
          (Foreseen ((Task.reconcileChoices p xs).Deletes plan c)) :=
        Choice.accounts_reconcile fun _ c' deletes => ⟨_, c', .reconcileChoices deletes, rfl, rfl⟩
      exact hown
    | upsertQuestion parent q =>
      exact Accounted.mono (Question.accounts_upsert (q, c)) fun _ _ =>
        Foreseen.mono fun _ _ => .upsertQuestion
    | upsertChoice parent x =>
      have hnone : ((Choice.reconciler plan).upsert parent).Accounts (Behind Connection.issued) (x, c)
          (Foreseen ((Task.upsertChoice parent x).Deletes plan c)) :=
        Choice.reconciler_logs.upsert fun _ _ => accounts_of_same rfl
      exact hnone
  show Accounted _ _ _
  dsimp only [Task.run]
  split <;> rename_i hr <;> rwa [hr] at hperform

theorem Store.accounts_batch (tasks : List Task) (failing : Option Failure) (c : Connection) :
    (Store.batch cond.plan failing).Accounts (Behind (Behind Connection.issued)) (tasks, ([], c))
      (Foreseen ((Write.batch tasks failing).Deletes cond c)) := by
  refine (Connection.session_logs cond.plan).alongside.alongside.transaction
    fun s₁ s₂ hacquire hbegin => ?_
  obtain ⟨x, answers, c₁⟩ := s₂
  cases hacquire
  obtain ⟨hinner, rfl⟩ := onSecond_eq_ok.mp hbegin
  obtain ⟨hbegun, rfl⟩ := onSecond_eq_ok.mp hinner
  refine Accounts.bind (accounts_of_same rfl) fun _ _ hread => ?_
  cases hread
  dsimp only
  refine Accounts.bind (accounts_each fun front task rest done s htasks hfront => ?_) fun _ _ _ => ?_
  · obtain ⟨answers, c₂⟩ := s
    subst htasks
    exact Accounted.mono (task.accounts_run answers c₂) fun _ _ =>
      Foreseen.mono fun _ _ => .batch hbegun hfront
  · split <;> exact accounts_of_same rfl

/-- Every deletion that a write issues has been foreseen. -/
theorem Write.accounts_run (w : Write) (cond : Conditions) (c : Connection) :
    (w.run cond).Accounts Connection.issued c (Foreseen (w.Deletes cond c)) := by
  cases w with
  | createQuiz v =>
    refine Accounts.upon (Accounts.bind (accounts_of_same rfl) fun _ _ hforget => ?_)
    cases hforget
    refine Store.accounts_announced (Store.accounts_transacting fun c₁ hbegun => ?_)
    exact Accounted.mono (Store.accounts_upsertQuiz (v.forget, c₁)) fun _ _ =>
      Foreseen.mono fun _ _ => .createQuiz hbegun
  | updateQuiz v =>
    have hupdate : (Store.updateQuiz cond).Accounts (Behind Connection.issued) (v, c)
        (Foreseen ((Write.updateQuiz v).Deletes cond c)) := by
      refine Accounts.bind (accounts_of_same rfl) fun _ _ hread => ?_
      cases hread
      dsimp only
      split
      · exact Accounts.bind (accounts_of_same rfl) nofun
      · rename_i old
        refine Store.accounts_announced (Store.accounts_transacting fun c₁ hbegun => ?_)
        exact Accounted.mono (Store.accounts_upsertQuiz (v, c₁)) fun _ _ =>
          Foreseen.mono fun _ _ => .updateQuiz old hbegun
    exact hupdate.upon
  | createQuestion q =>
    refine Accounts.upon (Accounts.bind (accounts_of_same rfl) fun _ _ hforget => ?_)
    cases hforget
    refine Store.accounts_announced (Store.accounts_transacting fun c₁ hbegun => ?_)
    exact Accounted.mono (Question.accounts_upsert (q.forget, c₁)) fun _ _ =>
      Foreseen.mono fun _ _ => .createQuestion hbegun
  | updateQuestion q =>
    have hupdate : (Store.updateQuestion cond).Accounts (Behind Connection.issued) (q, c)
        (Foreseen ((Write.updateQuestion q).Deletes cond c)) := by
      refine Accounts.bind (accounts_of_same rfl) fun _ _ hread => ?_
      cases hread
      dsimp only
      split
      · exact Accounts.bind (accounts_of_same rfl) nofun
      · rename_i old
        refine Store.accounts_announced (Store.accounts_transacting fun c₁ hbegun => ?_)
        exact Accounted.mono (Question.accounts_upsert (q, c₁)) fun _ _ =>
          Foreseen.mono fun _ _ => .updateQuestion old hbegun
    exact hupdate.upon
  | batch tasks failing =>
    have hbatch : (((Store.batch cond.plan failing).upon tasks).upon []).Accounts Connection.issued c
        (Foreseen ((Write.batch tasks failing).Deletes cond c)) :=
      (Store.accounts_batch tasks failing c).upon.upon
    exact hbatch.bind fun _ _ _ => accounts_of_same rfl

end TriviaStore
