import TriviaStore.Proofs.Store.Keeps

/-! # Writes are all or nothing

A write that fails leaves the committed tables as they were, whatever it was asked to do and whatever
made it fail: a row that is refused, a write by id that matches nothing, or any failure of any of its
statements, the first and the last of the transaction among them.
-/

namespace TriviaStore

open Attempt

variable {cond : Conditions} {T : Tables}

/-- Nothing but a commit touches the committed tables. -/
abbrev Connection.StillCommitted (T : Tables) : Connection → Prop :=
  Holds (· = T) fun _ => True

theorem Tables.closedBelow_true : Tables.ClosedBelow fun _ => True where
  insertQuestion _ _ := trivial
  updateQuestion _ _ := trivial
  deleteQuestion _ _ := trivial
  insertChoice _ _ := trivial
  updateChoice _ _ := trivial
  deleteChoice _ _ := trivial

theorem Tables.closed_true (clock : Instant) : Tables.ClosedAt clock fun _ => True where
  toClosedBelow := closedBelow_true
  insertQuiz _ _ _ := trivial
  updateQuiz _ _ := trivial

theorem Connection.shields_committed (plan : Plan Statement) :
    (session plan).Shields (StillCommitted T) := session_shields fun _ _ => trivial

theorem Store.transacting_onFailure {τ : Type} {plan : Plan Statement}
    {work : Attempt (τ × Connection) Unit}
    (hw : work.Keeps (OnSecond (Connection.StillCommitted T))) :
    (Store.transacting plan work).KeepsOnFailure (OnSecond (Connection.StillCommitted T)) :=
  (Connection.shields_committed plan).alongside.transaction_onFailure
    Connection.session_closes.alongside hw

theorem Store.announce_succeeds {τ : Type} (event : τ → Event) (p : τ × Connection) :
    ∃ y, (Store.announce event p).1 = .ok y := ⟨(), rfl⟩

theorem Store.createQuiz_onFailure :
    (Store.createQuiz cond).KeepsOnFailure (OnSecond (Connection.StillCommitted T)) := by
  have hf : (Attempt.update fun p : Quiz × Connection => (p.1.forget, p.2)).Keeps
      (OnSecond (Connection.StillCommitted T)) := keeps_update fun _ hp => hp
  refine .bind hf fun _ => KeepsOnFailure.bind_of_succeeds ?_ fun _ => Store.announce_succeeds _
  exact Store.transacting_onFailure (Store.keeps_upsertQuiz (Tables.closed_true _))

theorem Store.updateQuiz_onFailure :
    (Store.updateQuiz cond).KeepsOnFailure (OnSecond (Connection.StillCommitted T)) := by
  refine .bind keeps_read fun ⟨q, _⟩ => ?_
  have ht : (do
      Store.transacting cond.plan (Store.upsertQuiz cond)
      Store.announce fun q => .quizUpdated q.id).KeepsOnFailure
        (OnSecond (Connection.StillCommitted T)) :=
    (Store.transacting_onFailure (Store.keeps_upsertQuiz (Tables.closed_true _))).bind_of_succeeds
      fun _ => Store.announce_succeeds _
  dsimp only
  split
  · exact .bind (keeps_fail _) fun _ => ht
  · exact ht

theorem Store.createQuestion_onFailure :
    (Store.createQuestion cond).KeepsOnFailure (OnSecond (Connection.StillCommitted T)) := by
  have hf : (Attempt.update fun p : Question × Connection => (p.1.forget, p.2)).Keeps
      (OnSecond (Connection.StillCommitted T)) := keeps_update fun _ hp => hp
  refine .bind hf fun _ => KeepsOnFailure.bind_of_succeeds ?_ fun _ => Store.announce_succeeds _
  exact Store.transacting_onFailure ((Question.reconciler_keeps Tables.closedBelow_true).upsert none)

theorem Store.updateQuestion_onFailure :
    (Store.updateQuestion cond).KeepsOnFailure (OnSecond (Connection.StillCommitted T)) := by
  refine .bind keeps_read fun ⟨q, _⟩ => ?_
  have ht : (do
      Store.transacting cond.plan ((Question.reconciler cond.plan).upsert none)
      Store.announce fun q => .questionUpdated q.id).KeepsOnFailure
        (OnSecond (Connection.StillCommitted T)) :=
    (Store.transacting_onFailure
      ((Question.reconciler_keeps Tables.closedBelow_true).upsert none)).bind_of_succeeds
        fun _ => Store.announce_succeeds _
  dsimp only
  split
  · exact .bind (keeps_fail _) fun _ => ht
  · exact ht

theorem Store.batch_onFailure {plan : Plan Statement} (failing : Option Failure) :
    (Store.batch plan failing).KeepsOnFailure
      (OnSecond (OnSecond (Connection.StillCommitted T))) :=
  (Connection.shields_committed plan).alongside.alongside.transaction_onFailure
    Connection.session_closes.alongside.alongside (Store.keeps_tasks Tables.closedBelow_true failing)

theorem Write.run_onFailure (w : Write) :
    (w.run cond).KeepsOnFailure (Connection.StillCommitted T) := by
  cases w with
  | createQuiz q => exact Store.createQuiz_onFailure.upon q
  | updateQuiz q => exact Store.updateQuiz_onFailure.upon q
  | createQuestion q => exact Store.createQuestion_onFailure.upon q
  | updateQuestion q => exact Store.updateQuestion_onFailure.upon q
  | batch tasks failing =>
    exact (((Store.batch_onFailure failing).upon tasks).upon []).bind_of_succeeds
      fun _ _ => ⟨(), rfl⟩

/-- A write that fails commits nothing. -/
theorem Write.committed_of_failure (w : Write) (c : Connection) {e : Failure}
    (h : (w.run cond c).1 = .error e) : (w.run cond c).2.committed = c.committed :=
  (w.run_onFailure c e _ ⟨rfl, trivial⟩ (Prod.ext h rfl)).committed

/-- The first deletion of a choice is interrupted. -/
def Conditions.interrupted : Conditions where
  clock := ⟨0⟩
  plan := .nth (· == .delete .choices) 1 (.fail (.outside .interrupt ""))

/-- A quiz and its questions have been written by then, and choices have been inserted. -/
theorem Write.committed_of_interrupted :
    ((Write.updateQuiz .revised).run .interrupted (.onto .demo)).1 =
        .error (.outside .interrupt "") ∧
      ((Write.updateQuiz .revised).run .interrupted (.onto .demo)).2.committed = .demo := by
  have h : ((Write.updateQuiz .revised).run .interrupted (.onto .demo)).1 =
      .error (.outside .interrupt "") := by decide +kernel
  exact ⟨h, Write.committed_of_failure _ _ h⟩

end TriviaStore
