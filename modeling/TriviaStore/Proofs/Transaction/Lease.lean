import TriviaStore.Proofs.Routine.Requests
import TriviaStore.Transaction.Lease

/-! # What becomes of a lease

Whatever is asked of a lease, and whether or not its session can be closed: only a first request to go on
is given the session, the next request closes it, and nothing after that does anything. A lease that was
never given its session has nothing to close. What is raised while the lease is not over, by a request or
by closing the session, has to come out of a routine.
-/

namespace TriviaStore.Lease

open Routine

variable (closing : Option Failure)

/-! ## Courses -/

/-- The ways in which a lease can answer requests. -/
inductive Course : List Routine.Request → List (Reply × List Step) → Prop
  | unasked : Course [] []
  /-- The session is never given. -/
  | unused {r : Routine.Request} (requests : List Routine.Request) (h : r ≠ .next) :
      Course (r :: requests) ((r.ending.escape, []) :: requests.map fun r => (r.ending, []))
  /-- The session is given and not closed yet. -/
  | held : Course [.next] [(.paused, [.acquire])]
  /-- The session is given and closed by the next request. -/
  | returned (r : Routine.Request) (requests : List Routine.Request) :
      Course (.next :: r :: requests)
        ((.paused, [.acquire]) :: (closing.elim r.ending.escape r.failing, [.acquire, .close]) ::
          requests.map fun r => (r.ending, [.acquire, .close]))

/-- A request that finds the session given closes it. -/
theorem answer_paused (r : Routine.Request) (t : Trace) :
    (script closing).calls.lease.answer r (.paused, t) =
      (closing.elim r.ending.escape r.failing, .over, { t with steps := t.steps ++ [.close] }) := by
  cases closing with
  | none => exact answer_paused_of_ok (by cases r <;> rfl)
  | some e => exact answer_paused_of_error (by cases r <;> rfl)

theorem course (requests : List Routine.Request) :
    Course closing requests (answers closing requests) := by
  cases requests with
  | nil => exact .unasked
  | cons first requests =>
    by_cases hfirst : first = .next
    · subst hfirst
      cases requests with
      | nil => exact .held
      | cons r requests =>
        have hgiven : (script closing).calls.lease.answer .next (.idle, ⟨[], []⟩) =
            (.paused, .paused, ⟨[.acquire], []⟩) := rfl
        unfold answers
        rw [answers_cons, hgiven, answers_cons, answer_paused, answers_over, List.map_cons,
          List.map_cons, List.map_map]
        exact .returned r requests
    · unfold answers
      rw [answers_cons, answer_idle hfirst, answers_over, List.map_cons, List.map_map]
      exact .unused requests hfirst

/-! ## The session -/

/-- What the answers to requests say of the session. -/
structure Orderly (requests : List Routine.Request) (answers : List (Reply × List Step)) :
    Prop where
  length_eq : answers.length = requests.length
  /-- The session is given by a first request to go on, and by nothing else. -/
  session_iff : ∀ {i : Nat} {a : Reply × List Step}, answers[i]? = some a →
    (a.1 = .paused ↔ i = 0 ∧ requests.head? = some .next)
  /-- It is closed by the request after that, and by nothing else. -/
  steps_eq : ∀ {i : Nat} {a : Reply × List Step}, answers[i]? = some a →
    a.2 = if requests.head? = some .next then if i = 0 then [.acquire] else [.acquire, .close] else []
  /-- That request ends the lease, unless closing fails. -/
  closing_eq : ∀ {r : Routine.Request} {a : Reply × List Step}, requests.head? = some .next →
    requests[1]? = some r → answers[1]? = some a → a.1 = closing.elim r.ending.escape r.failing
  /-- Any other first request ends it too. -/
  first_eq : ∀ {r : Routine.Request} {a : Reply × List Step}, requests.head? = some r → r ≠ .next →
    answers[0]? = some a → a.1 = r.ending.escape
  /-- The rest find it at its end. -/
  ending_eq : ∀ {i : Nat} {r : Routine.Request} {a : Reply × List Step}, 0 < i →
    (requests.head? = some .next → 1 < i) → requests[i]? = some r → answers[i]? = some a →
    a.1 = r.ending

variable {closing}

end TriviaStore.Lease
