import TriviaStore.Routine
import TriviaStore.Log.Event

/-! # Transactions

A unit of work runs inside one database transaction. It is committed when the work ends normally and
rolled back when the work fails with anything at all, and the session is closed in either case. The work
is done while a routine pauses that has begun the transaction and will end it. `SessionCalls` are the
calls that this takes; what they do is a parameter.
-/

namespace TriviaStore

/-- The calls that a transaction makes on its session. -/
structure SessionCalls (σ : Type) where
  acquire : Attempt σ Unit
  begin : Attempt σ Unit
  commit : Attempt σ Unit
  rollback : Attempt σ Unit
  close : Attempt σ Unit
  note : Event → σ → σ

namespace SessionCalls

variable {σ τ α : Type}

/-- The same calls on a state that holds something more. -/
def alongside (calls : SessionCalls σ) : SessionCalls (τ × σ) where
  acquire := calls.acquire.onSecond
  begin := calls.begin.onSecond
  commit := calls.commit.onSecond
  rollback := calls.rollback.onSecond
  close := calls.close.onSecond
  note e := fun (t, s) => (t, calls.note e s)

variable (calls : SessionCalls σ)

/-- Roll back. A driver error is reported and does not replace what made the rollback necessary. -/
def undo : Attempt σ Unit := fun s =>
  match calls.rollback s with
  | (.ok _, s') => (.ok (), calls.note .rolledBack s')
  | (.error (.driver e), s') => (.ok (), calls.note (.rollbackFailed e.message) s')
  | (.error e, s') => (.error e, s')

/-- Begin; a driver error means that there is no transaction. -/
def start : Attempt σ Unit :=
  calls.begin.mapFailure fun _ e =>
    match e with
    | .driver d => .store (.transaction "failed to begin transaction" (some d))
    | e => e

/-- Commit; a driver error undoes the work. -/
def finish : Attempt σ Unit := fun s =>
  match calls.commit s with
  | (.ok _, s') => (.ok (), calls.note .committed s')
  | (.error (.driver d), s') =>
    match calls.undo s' with
    | (.ok _, s'') => (.error (.store (.transaction "failed to commit transaction" (some d))), s'')
    | (.error e', s'') => (.error e', s'')
  | (.error e, s') => (.error e, s')

/-- What a transaction does around its work: a failure of the work is undone, whatever it is. -/
def unit : Routine σ where
  enter := calls.start
  leave := calls.finish
  abort := calls.undo

/-- Run the work in a transaction of its own, with a session that is closed in any case. -/
def transaction (work : Attempt σ α) : Attempt σ α :=
  ((calls.unit.ensuring calls.close).after calls.acquire).around work

end SessionCalls

end TriviaStore
