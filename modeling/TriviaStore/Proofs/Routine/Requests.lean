import TriviaStore.Proofs.Routine.Around

/-! # What a routine replies

A routine that is over, or was ended before it started, has the same reply for a request as any other. In
between, a request is replied to as it asks unless the routine fails. Work is done while a routine pauses
by asking it to go on before the work and after it, and by throwing at it what the work fails with.
-/

namespace TriviaStore.Routine

open Attempt

variable {σ α : Type} {s s' : σ} {e : Failure}

/-- The end that a request puts to a routine. -/
def Request.ending : Request → Reply
  | .next => .exhausted
  | .close => .closed
  | .throw e => .raised e

/-- What a request is told of a failure at the end. -/
def Request.failing : Request → Failure → Reply
  | .close, .outside .abandoned _ => .closed
  | _, e => .raised e.escape

/-- A reply as it comes out of a routine. -/
def Reply.escape : Reply → Reply
  | .raised e => .raised e.escape
  | r => r

variable {routine : Routine σ}

/-- Asked for anything but to go on, a routine that is idle is over. -/
theorem answer_idle {r : Request} (h : r ≠ .next) (s : σ) :
    routine.answer r (.idle, s) = (r.ending.escape, .over, s) := by
  cases r
  case next => exact absurd rfl h
  case close | throw => rfl

theorem answer_entered (h : routine.enter s = (.ok (), s')) :
    routine.answer .next (.idle, s) = (.paused, .paused, s') := by
  simp only [answer, escaping_eq_ok.mpr h]

theorem answer_notEntered (h : routine.enter s = (.error e, s')) :
    routine.answer .next (.idle, s) = (.raised e.escape, .over, s') := by
  simp only [answer, escaping_of_error h]

/-- What a routine itself does about a request at its pause. -/
def onward (routine : Routine σ) : Request → Attempt σ Unit
  | .next => routine.leave
  | .close | .throw _ => routine.abort

theorem resume_of_ok {r : Request} (h : routine.onward r s = (.ok (), s')) :
    routine.resume r s = r.raise s' := by
  cases r with
  | next => exact h
  | close | throw => exact bind_of_ok h

theorem resume_of_error {r : Request} (h : routine.onward r s = (.error e, s')) :
    routine.resume r s = (.error e, s') := by
  cases r with
  | next => exact h
  | close | throw => exact bind_of_error h

theorem answer_paused_of_ok {r : Request} (h : routine.onward r s = (.ok (), s')) :
    routine.answer r (.paused, s) = (r.ending.escape, .over, s') := by
  have hresume := resume_of_ok h
  cases r with
  | next =>
    simp only [answer, escaping_eq_ok.mpr hresume]
    rfl
  | close | throw =>
    simp only [answer, escaping_of_error hresume]
    rfl

theorem answer_paused_of_error {r : Request} (h : routine.onward r s = (.error e, s')) :
    routine.answer r (.paused, s) = (r.failing e, .over, s') := by
  simp only [answer, escaping_of_error (resume_of_error h)]
  congr 1
  rcases r with _ | _ | d <;> rcases e with _ | _ | _ | ⟨_ | _ | _ | _ | _, _⟩ | _ <;> rfl

theorem answer_over (r : Request) (s : σ) :
    routine.answer r (.over, s) = (r.ending, .over, s) := by
  cases r <;> rfl

theorem answers_cons (r : Request) (requests : List Request) (x : Stage × σ) :
    routine.answers (r :: requests) x =
      ((routine.answer r x).1, (routine.answer r x).2.2) ::
        routine.answers requests (routine.answer r x).2 :=
  rfl

theorem answers_over (requests : List Request) (s : σ) :
    routine.answers requests (.over, s) = requests.map fun r => (r.ending, s) := by
  induction requests with
  | nil => rfl
  | cons r requests ih => rw [answers_cons, answer_over, ih, List.map_cons]

/-! ## Driving a routine -/

/-- Work done while a routine pauses, told by what the routine replies. What the work fails with is thrown
at the routine; if the routine raises it again, it comes out as it was before. -/
inductive Driven (routine : Routine σ) (work : Attempt σ α) (s : σ) : Except Failure α × σ → Prop
  | notPaused {e : Failure} {s' : σ}
      (first : routine.answer .next (.idle, s) = (.raised e, .over, s')) :
      Driven routine work s (.error e, s')
  | ended {a : α} {s₁ s₂ s' : σ} (first : routine.answer .next (.idle, s) = (.paused, .paused, s₁))
      (done : work s₁ = (.ok a, s₂))
      (last : routine.answer .next (.paused, s₂) = (.exhausted, .over, s')) :
      Driven routine work s (.ok a, s')
  | notEnded {a : α} {e : Failure} {s₁ s₂ s' : σ}
      (first : routine.answer .next (.idle, s) = (.paused, .paused, s₁))
      (done : work s₁ = (.ok a, s₂))
      (last : routine.answer .next (.paused, s₂) = (.raised e, .over, s')) :
      Driven routine work s (.error e, s')
  | raisedAgain {d : Failure} {s₁ s₂ s' : σ}
      (first : routine.answer .next (.idle, s) = (.paused, .paused, s₁))
      (failed : work s₁ = (.error d, s₂))
      (last : routine.answer (.throw d) (.paused, s₂) = (.raised d.escape, .over, s')) :
      Driven routine work s (.error d, s')
  | replaced {d e : Failure} {s₁ s₂ s' : σ}
      (first : routine.answer .next (.idle, s) = (.paused, .paused, s₁))
      (failed : work s₁ = (.error d, s₂))
      (last : routine.answer (.throw d) (.paused, s₂) = (.raised e, .over, s')) :
      Driven routine work s (.error e, s')

theorem around_driven (routine : Routine σ) (work : Attempt σ α) (s : σ) :
    routine.Driven work s (routine.around work s) := by
  rcases h : routine.around work s with ⟨e | a, s'⟩
  · cases around_eq_error.mp h with
    | entering enter => exact .notPaused (answer_notEntered enter)
    | leaving enter done leave =>
      exact .notEnded (answer_entered enter) done (answer_paused_of_error leave)
    | working enter failed abort =>
      exact .raisedAgain (answer_entered enter) failed (answer_paused_of_ok abort)
    | aborting enter failed abort =>
      exact .replaced (answer_entered enter) failed (answer_paused_of_error abort)
  · obtain ⟨s₁, s₂, enter, done, leave⟩ := around_eq_ok.mp h
    exact .ended (answer_entered enter) done (answer_paused_of_ok leave)

end TriviaStore.Routine
