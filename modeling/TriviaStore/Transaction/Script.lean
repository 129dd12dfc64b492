import TriviaStore.Transaction

/-! # Scripted sessions

A session whose calls do nothing but fail where a script says so. It records the calls made on it.
-/

namespace TriviaStore

/-- The steps of a transaction, the work itself among them. -/
inductive Step
  | acquire
  | begin
  | work
  | commit
  | rollback
  | close
  deriving DecidableEq, Repr

def Step.name : Step → String
  | .acquire => "open"
  | .begin => "begin"
  | .work => "body"
  | .commit => "commit"
  | .rollback => "rollback"
  | .close => "close"

/-- How each step fails, if it does. -/
abbrev Script := Step → Option Failure

/-- The steps taken, the failing ones included, and the events reported. -/
structure Trace where
  steps : List Step
  events : List Event
  deriving DecidableEq, Repr

namespace Script

variable (script : Script)

def take (step : Step) : Attempt Trace Unit := fun t =>
  let t' := { t with steps := t.steps ++ [step] }
  match script step with
  | some e => (.error e, t')
  | none => (.ok (), t')

/-- The calls of a scripted session. -/
def calls : SessionCalls Trace where
  acquire := script.take .acquire
  begin := script.take .begin
  commit := script.take .commit
  rollback := script.take .rollback
  close := script.take .close
  note e t := { t with events := t.events ++ [e] }

/-- Run a transaction under the script, the work giving a fixed result. -/
def run {α : Type} (result : α) : Except Failure α × Trace :=
  SessionCalls.transaction (calls script)
    ((script.take .work).andThen fun _ => .done result) ⟨[], []⟩

end Script

end TriviaStore
