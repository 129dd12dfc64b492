import TriviaStore.Transaction.Script

/-! # Leases

A lease is a routine that opens a session, pauses for as long as the session is needed, and closes it
then, whatever became of what the session was needed for.
-/

namespace TriviaStore

/-- A session for as long as it is needed. -/
def SessionCalls.lease {σ : Type} (calls : SessionCalls σ) : Routine σ :=
  (Routine.pausing.ensuring calls.close).after calls.acquire

namespace Lease

/-- A session with which nothing can go wrong but closing it. -/
def script (closing : Option Failure) : Script
  | .close => closing
  | _ => none

/-- Answer requests to a lease that has not been asked for anything, with the steps taken after each. -/
def answers (closing : Option Failure) (requests : List Routine.Request) :
    List (Routine.Reply × List Step) :=
  ((script closing).calls.lease.answers requests (.idle, ⟨[], []⟩)).map fun (r, t) => (r, t.steps)

end Lease

end TriviaStore
