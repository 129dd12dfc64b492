import TriviaStore.Proofs.Transaction.Protocol

/-! # Which transactions are rolled back

A transaction that has begun and has not been committed is rolled back before its session is closed
and its error comes out, whatever the error is and wherever it arises, with one exception: a commit
that fails with anything but a driver error is followed by closing the session and nothing else.
-/

namespace TriviaStore

variable {σ α : Type}

namespace Record

/-- The transaction has begun, and no commit was carried out. -/
def Unfinished (es : Record α) : Prop := es.Returned .begin ∧ ¬ es.Returned .commit

/-- The commit failed, and not with a driver error. -/
def Stopped (es : Record α) : Prop := ∃ e, e.isDriver = false ∧ es.Raised .commit e

/-- What a record says of rolling back. -/
structure Undone (es : Record α) : Prop where
  /-- What is unfinished is rolled back, unless it was stopped, and nothing else is. -/
  unfinished : .rollback ∈ es.steps ↔ es.Unfinished ∧ ¬ es.Stopped
  /-- After rolling back the session is closed, and the error comes out. -/
  before : .rollback ∈ es.steps → [.rollback, .close] <:+ es.steps
  stopped : es.Stopped → es.steps = [.acquire, .begin, .work, .commit, .close]

end Record

theorem Story.undone {es : Record α} {r : Except Failure α} (h : Story es r) : es.Undone := by
  cases h with
  | notOpened e => constructor <;> simp [Record.Unfinished, Record.Stopped]
  | closed inner | notClosed _ inner =>
    cases inner with
    | notBegun e => constructor <;> simp [Record.Unfinished, Record.Stopped]
    | workFailed e undone =>
      cases undone <;> constructor <;> simp +decide [Record.Unfinished, Record.Stopped]
    | refused a d undone =>
      cases undone <;> constructor <;> simp +decide [Record.Unfinished, Record.Stopped]
    | stopped a h => constructor <;> simp [Record.Unfinished, Record.Stopped, h]
    | committed a => constructor <;> simp [Record.Unfinished, Record.Stopped]

/-- Whatever the session and the work do: what is left unfinished is rolled back before the error
comes out, unless the commit was stopped. -/
theorem SessionCalls.transaction_undone (calls : SessionCalls σ) (work : Attempt σ α) (s : σ) :
    ∃ es, calls.transactionRecorded work ([], s) =
        ((calls.transaction work s).1, (es, (calls.transaction work s).2)) ∧ es.Undone := by
  obtain ⟨es, hrun, hstory⟩ := calls.transaction_onRecord work [] s
  exact ⟨es, hrun, hstory.undone⟩

/-- The commit is interrupted. -/
def Script.interrupted : Script
  | .commit => some (.outside .interrupt "stop")
  | _ => none

/-- Not everything unfinished is rolled back: when the commit is interrupted, it is not. -/
theorem SessionCalls.not_always_undone : ¬ ∀ {σ α : Type} (calls : SessionCalls σ)
    (work : Attempt σ α) (s : σ) (es : Record α),
    (calls.transactionRecorded work ([], s)).2.1 = es → es.Unfinished → .rollback ∈ es.steps := by
  intro h
  have hno := h Script.interrupted.calls (Script.interrupted.take .work) ⟨[], []⟩ _ rfl
  have hes : (SessionCalls.transactionRecorded Script.interrupted.calls
      (Script.interrupted.take .work) ([], ⟨[], []⟩)).2.1 =
    [.took .acquire (.ok none), .took .begin (.ok none), .took .work (.ok (some ())),
      .took .commit (.error (.outside .interrupt "stop")), .took .close (.ok none)] := rfl
  rw [hes] at hno
  simp [Record.Unfinished] at hno

end TriviaStore
