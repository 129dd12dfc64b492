import TriviaStore.Store.Write

/-! # Batches

Several reconciliations in one transaction. A batch may be made to fail after its last task.
-/

namespace TriviaStore

/-- One call on the reconcilers; an upsert is scoped to a parent if one is given. -/
inductive Task
  | reconcileQuestions (quizId : Int) (children : List Question)
  | reconcileChoices (questionId : Int) (children : List Choice)
  | upsertQuestion (quizId : Option Int) (child : Question)
  | upsertChoice (questionId : Option Int) (child : Choice)
  deriving DecidableEq, Repr

/-- What a task answers: the ids deleted by a reconciliation, nothing for an upsert. -/
abbrev Task.Answer := Option (List Int)

/-- A connection with the answers given so far. -/
abbrev Answering := List Task.Answer × Connection

namespace Task

/-- Carry out a task; its children are kept as they were left. -/
def perform (plan : Plan Statement) :
    Task → Connection → Except Failure Answer × (Task × Connection)
  | .reconcileQuestions quizId children, c =>
    let (r, (children, c')) := (Question.reconciler plan).reconcile quizId (children, c)
    (r.map some, (.reconcileQuestions quizId children, c'))
  | .reconcileChoices questionId children, c =>
    let (r, (children, c')) := (Choice.reconciler plan).reconcile questionId (children, c)
    (r.map some, (.reconcileChoices questionId children, c'))
  | .upsertQuestion quizId child, c =>
    let (r, (child, c')) := (Question.reconciler plan).upsert quizId (child, c)
    (r.map fun _ => none, (.upsertQuestion quizId child, c'))
  | .upsertChoice questionId child, c =>
    let (r, (child, c')) := (Choice.reconciler plan).upsert questionId (child, c)
    (r.map fun _ => none, (.upsertChoice questionId child, c'))

/-- Carry out a task and keep its answer. -/
def run (plan : Plan Statement) : Attempt (Task × Answering) Unit := fun (task, (answers, c)) =>
  match perform plan task c with
  | (.ok a, (task', c')) => (.ok (), (task', (answers ++ [a], c')))
  | (.error e, (task', c')) => (.error e, (task', (answers, c')))

end Task

namespace Store

/-- Carry out tasks in one transaction, fail at the end if told to, and give the number of tasks. -/
def batch (plan : Plan Statement) (failing : Option Failure) :
    Attempt (List Task × Answering) Nat :=
  (Connection.session plan).alongside.alongside.transaction do
    let (tasks, _) ← .read
    Attempt.each (Task.run plan)
    match failing with
    | some e => .fail e
    | none => pure tasks.length

end Store

end TriviaStore
