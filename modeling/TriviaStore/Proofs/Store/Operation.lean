import TriviaStore.Proofs.Attempt.Outcome
import TriviaStore.Store.Batch
import TriviaStore.Store.Seed

/-! # Operations and reachable stores

A write is one call that changes the store in one transaction; seeding is a series of writes. The
reachable stores are those that operations leave behind, starting from no rows at all, each operation
with any arguments, on any clock, and under any plan of disturbances.
-/

namespace TriviaStore

open Attempt

/-- A call that changes the store in one transaction. -/
inductive Write
  | createQuiz (quiz : Quiz)
  | updateQuiz (quiz : Quiz)
  | createQuestion (question : Question)
  | updateQuestion (question : Question)
  | batch (tasks : List Task) (failing : Option Failure)
  deriving DecidableEq, Repr

/-- Carry out a write and forget what becomes of the entities passed to it. -/
def Write.run (cond : Conditions) : Write → Attempt Connection Unit
  | .createQuiz quiz => (Store.createQuiz cond).upon quiz
  | .updateQuiz quiz => (Store.updateQuiz cond).upon quiz
  | .createQuestion question => (Store.createQuestion cond).upon question
  | .updateQuestion question => (Store.updateQuestion cond).upon question
  | .batch tasks failing => do
    let _ ← ((Store.batch cond.plan failing).upon tasks).upon []

/-- A call that may change the store. -/
inductive Operation
  | write (write : Write)
  | seed
  deriving DecidableEq, Repr

/-- Carry out an operation and forget what it answers. -/
def Operation.run (cond : Conditions) : Operation → Attempt Connection Unit
  | .write w => w.run cond
  | .seed => do
    let _ ← Store.seed cond

/-- The rows that are committed after an operation. -/
def Operation.after (cond : Conditions) (op : Operation) (t : Tables) : Tables :=
  (op.run cond (.onto t)).2.committed

/-- The contents that a store can have. -/
inductive Reachable : Tables → Prop
  | empty : Reachable .empty
  | step {t : Tables} (cond : Conditions) (op : Operation) :
      Reachable t → Reachable (op.after cond t)

/-- The clock stands at the Unix epoch, and nothing is disturbed. -/
def Conditions.calm : Conditions := ⟨⟨0⟩, .quiet⟩

/-- The store with the demo quizzes. -/
@[irreducible] def Tables.demo : Tables := Operation.seed.after .calm .empty

theorem reachable_demo : Reachable .demo := by
  unfold Tables.demo
  exact .step .calm .seed .empty

/-- The first demo quiz with a question in front that is new, its third question gone, and its first
question given twice. -/
def Quiz.revised : Quiz where
  id := 1
  title := some "Capitals"
  slug := some "capitals"
  description := some ""
  createdAt := none
  questions := [
    { Question.new "" 5 [.new "Yes" true] with text := none, imageUrl := none },
    { Question.new "Spain?" 20 [{ Choice.new "Madrid" true with id := 5 }, .new "Lisbon" false] with
      id := 2 },
    { Question.new "France?" 10 [] with id := 1 },
    { Question.new "And France?" 10 [.new "Paris" true] with id := 1 }]

end TriviaStore
