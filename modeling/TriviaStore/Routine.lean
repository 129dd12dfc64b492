import TriviaStore.Attempt

/-! # Routines

A routine pauses once. Whoever started it goes on with it after the pause, or raises a failure where it
pauses, or closes it. Exhaustion is how a routine tells that it has come to its end, so an exhaustion
raised inside of it must not come out as such: it comes out as a runtime error that it caused.
-/

namespace TriviaStore

/-- A failure as it comes out of a routine. -/
def Failure.escape : Failure → Failure
  | .outside .exhausted m => .escaped m
  | e => e

/-- Fail with what comes out of a routine. -/
def Attempt.escaping {σ α : Type} (a : Attempt σ α) : Attempt σ α := a.mapFailure fun _ e => e.escape

/-- What a routine does before and after its pause. -/
structure Routine (σ : Type) where
  /-- From the start to the pause. -/
  enter : Attempt σ Unit
  /-- From the pause to the end. -/
  leave : Attempt σ Unit
  /-- From the pause on if a failure is raised there, which is raised again unless this fails. -/
  abort : Attempt σ Unit

namespace Routine

variable {σ α : Type}

/-- A routine that does nothing but pause. -/
def pausing : Routine σ := ⟨.done (), .done (), .done ()⟩

variable (routine : Routine σ)

/-- Do something before all else. -/
def after (first : Attempt σ Unit) : Routine σ where
  enter := do
    first
    routine.enter
  leave := routine.leave
  abort := routine.abort

/-- Do something last, wherever the routine ends. -/
def ensuring (last : Attempt σ Unit) : Routine σ where
  enter := routine.enter.ensuringOnFailure last
  leave := routine.leave.ensuring last
  abort := routine.abort.ensuring last

/-! ## Around some work -/

/-- Do the work while the routine pauses. A failure of the work is raised at the pause; when it is raised
again it is told from what the routine itself fails with, and comes out as it was. -/
def around (work : Attempt σ α) : Attempt σ α := do
  routine.enter.escaping
  match ← work.caught with
  | .ok a =>
    routine.leave.escaping
    pure a
  | .error e =>
    routine.abort.escaping
    .fail e

/-! ## Step by step -/

/-- What can be asked of a routine. -/
inductive Request
  /-- Go on, to the pause or to the end. -/
  | next
  | close
  | throw (failure : Failure)
  deriving DecidableEq, Repr

/-- What comes of a request. -/
inductive Reply
  | paused
  | exhausted
  | closed
  | raised (failure : Failure)
  deriving DecidableEq, Repr

/-- How far a routine has got. -/
inductive Stage
  | idle
  | paused
  | over
  deriving DecidableEq, Repr

/-- What a request raises where the routine stands. -/
def Request.raise : Request → Attempt σ Unit
  | .next => .done ()
  | .close => .fail (.outside .abandoned "")
  | .throw e => .fail e

/-- What is replied when the routine comes to its end. Closing it takes abandonment for an answer. -/
def Request.reply : Request → Except Failure Unit → Reply
  | .close, .ok _ => .closed
  | .close, .error (.outside .abandoned _) => .closed
  | _, .ok _ => .exhausted
  | _, .error e => .raised e

/-- Go on from the pause. -/
def resume (request : Request) : Attempt σ Unit :=
  match request with
  | .next => routine.leave
  | .close | .throw _ => do
    routine.abort
    request.raise

/-- Answer a request. A routine that is not under way lets what is raised pass; one that has not started
is a routine all the same. -/
def answer (request : Request) : Stage × σ → Reply × Stage × σ
  | (.idle, s) =>
    match request with
    | .next =>
      match routine.enter.escaping s with
      | (.ok _, s') => (.paused, .paused, s')
      | (.error e, s') => (.raised e, .over, s')
    | .close | .throw _ =>
      let (r, s') := request.raise.escaping s
      (request.reply r, .over, s')
  | (.paused, s) =>
    let (r, s') := (routine.resume request).escaping s
    (request.reply r, .over, s')
  | (.over, s) =>
    let (r, s') := request.raise s
    (request.reply r, .over, s')

/-- Answer requests in turn, with the state after each. -/
def answers : List Request → Stage × σ → List (Reply × σ)
  | [], _ => []
  | r :: rs, x =>
    let (reply, x') := routine.answer r x
    (reply, x'.2) :: answers rs x'

end Routine

end TriviaStore
