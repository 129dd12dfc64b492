import TriviaStore.Failure

/-! # Plans of disturbance

A plan says which calls are disturbed from outside and how, in view of the calls made before. The
quiet plan disturbs none.
-/

namespace TriviaStore

/-- What can happen to a call from outside. -/
inductive Disturbance
  /-- The call is not carried out and fails. -/
  | fail (failure : Failure)
  /-- The call is carried out as if no row matched. -/
  | noMatch
  deriving DecidableEq, Repr

/-- The disturbance of a call, given the calls before it, the oldest first. -/
def Plan (κ : Type) := List κ → κ → Option Disturbance

variable {κ : Type}

namespace Plan

/-- Nothing is disturbed. -/
def quiet : Plan κ := fun _ _ => none

/-- The `n`th call of a class, counted from 1, is disturbed. -/
def nth (isOne : κ → Bool) (n : Nat) (d : Disturbance) : Plan κ := fun past call =>
  if isOne call && past.countP isOne + 1 == n then some d else none

/-- The first plan of a list that disturbs a call decides. -/
def firstOf (plans : List (Plan κ)) : Plan κ := fun past call => plans.findSome? (· past call)

/-- Every call of a class fails in the same way. -/
def always (failing : κ → Option Failure) : Plan κ := fun _ call => (failing call).map .fail

end Plan

end TriviaStore
