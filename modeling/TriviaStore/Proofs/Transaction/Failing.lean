import TriviaStore.Proofs.Transaction.Protocol
import TriviaStore.Proofs.Transaction.Shield

/-! # Failing transactions

A transaction whose session is open fails because it cannot begin, because its work fails, because the
commit fails, or because it cannot be rolled back. The states in between are those of its own run.
-/

namespace TriviaStore.SessionCalls

open Attempt

variable {σ α : Type} {calls : SessionCalls σ} {work : Attempt σ α} {s s' : σ} {e : Failure}

/-- What puts an end to a transaction between opening and closing its session. -/
inductive Breaks (calls : SessionCalls σ) (work : Attempt σ α) (s : σ) : Failure → Prop
  | beginning {f : Failure} {s₁ : σ} (begin : calls.begin s = (.error f, s₁)) :
      Breaks calls work s (f.inTransaction "failed to begin transaction").escape
  | working {e : Failure} {s₁ s₂ : σ} (begin : calls.begin s = (.ok (), s₁))
      (failed : work s₁ = (.error e, s₂)) : Breaks calls work s e
  | committing {a : α} {f : Failure} {s₁ s₂ s₃ : σ} (begin : calls.begin s = (.ok (), s₁))
      (worked : work s₁ = (.ok a, s₂)) (commit : calls.commit s₂ = (.error f, s₃)) :
      Breaks calls work s (f.inTransaction "failed to commit transaction").escape
  | undoing {e : Failure} {s₁ s₂ : σ} (rollback : calls.rollback s₁ = (.error e, s₂))
      (other : e.isDriver = false) : Breaks calls work s e.escape

theorem undo_eq_error :
    calls.undo s = (.error e, s') ↔ calls.rollback s = (.error e, s') ∧ e.isDriver = false := by
  unfold SessionCalls.undo
  rcases calls.rollback s with ⟨f | _, s₁⟩
  · cases f <;> simp <;> rintro rfl <;> simp [Failure.isDriver]
  · simp

theorem start_eq_error : calls.start s = (.error e, s') ↔ ∃ f, calls.begin s = (.error f, s') ∧
    e = f.inTransaction "failed to begin transaction" :=
  mapFailure_eq_error

theorem finish_error (h : calls.finish s = (.error e, s')) :
    (∃ f s₁, calls.commit s = (.error f, s₁) ∧ e = f.inTransaction "failed to commit transaction") ∨
      ∃ s₁, calls.rollback s₁ = (.error e, s') ∧ e.isDriver = false := by
  unfold SessionCalls.finish at h
  split at h
  · cases h
  · rename_i d s₁ hc
    split at h
    · cases h
      exact .inl ⟨_, s₁, hc, rfl⟩
    · rename_i f s₂ hu
      cases h
      exact .inr ⟨s₁, undo_eq_error.mp hu⟩
  · rename_i f s₁ other hc
    cases h
    refine .inl ⟨e, s', hc, ?_⟩
    cases e with
    | driver d => exact (other d rfl).elim
    | _ => rfl

theorem breaks_of_unit (h : calls.unit.around work s = (.error e, s')) : calls.Breaks work s e := by
  cases Routine.around_eq_error.mp h with
  | entering start =>
    obtain ⟨f, hf, rfl⟩ := start_eq_error.mp start
    exact .beginning hf
  | leaving start done finish =>
    rcases finish_error finish with ⟨f, s₁, hc, rfl⟩ | ⟨s₁, hr, other⟩
    · exact .committing (start_eq_ok.mp start) done hc
    · exact .undoing hr other
  | working start failed => exact .working (start_eq_ok.mp start) failed
  | aborting _ _ undo =>
    obtain ⟨hr, other⟩ := undo_eq_error.mp undo
    exact .undoing hr other

/-- A failing transaction whose session can be opened and closed has been put an end to in between. -/
theorem breaks_of_transaction (hc : calls.Closes) {s₁ : σ} (ha : calls.acquire s = (.ok (), s₁))
    (h : calls.transaction work s = (.error e, s')) : calls.Breaks work s₁ e := by
  rw [transaction_eq hc ha] at h
  rcases hi : calls.unit.around work s₁ with ⟨r, s₂⟩
  rw [hi] at h
  obtain ⟨rfl, rfl⟩ := Prod.mk.inj h
  exact breaks_of_unit hi

end TriviaStore.SessionCalls
