import TriviaStore.Store.Children
import TriviaStore.Store.Read

/-! # Writing

A write takes an aggregate, makes the stored rows match it in one transaction, and gives the
entities passed in the ids they have been stored under. When a write fails, nothing is stored,
although the entities may already carry new ids.
-/

namespace TriviaStore

/-- What a write meets: the time on the clock, and the plan of disturbances. -/
structure Conditions where
  clock : Instant
  plan : Plan Statement

namespace Store

/-- Run a write in a transaction of its own. -/
def transacting {τ : Type} (plan : Plan Statement) (work : Attempt (τ × Connection) Unit) :
    Attempt (τ × Connection) Unit :=
  (Connection.session plan).alongside.transaction work

/-- Report an event about an aggregate. -/
def announce {τ : Type} (event : τ → Event) : Attempt (τ × Connection) Unit :=
  .update fun (t, c) => (t, c.note (event t))

variable (cond : Conditions)

/-- Insert the quiz's row and give the quiz its id and creation time. -/
def insertQuiz : Attempt (Quiz × Connection) Unit := fun (q, c) =>
  match Moment.now? cond.clock with
  | none => (.error .overflow, (q, c))
  | some now =>
    match (Connection.insert cond.plan .quizzes
        (Tables.insertQuiz q.title q.slug q.description now.toMillis)).wrapping
        (fun _ => s!"failed to create quiz (title: {Text.quotedOrNone q.title})") c with
    | (.ok id, c') => (.ok (), ({ q with id, createdAt := some now.toInstant }, c'))
    | (.error e, c') => (.error e, (q, c'))

def overwriteQuiz : Attempt (Quiz × Connection) Unit := do
  let (q, _) ← .read
  let rows ← ((Connection.write cond.plan (.update .quizzes)
    (Tables.updateQuiz q.id q.title q.slug q.description)).wrapping
      fun _ => s!"failed to update quiz {q.id}").onSecond
  if rows = 0 then .fail (.store (.missed .updatingQuiz q.id))

def reconcileQuestions : Attempt (Quiz × Connection) Unit := fun (q, c) =>
  let (r, (questions, c')) := (Question.reconciler cond.plan).reconcile q.id (q.questions, c)
  (r.map fun _ => (), ({ q with questions }, c'))

/-- Insert or overwrite the quiz's row, and reconcile what is below it. -/
def upsertQuiz : Attempt (Quiz × Connection) Unit := do
  let (q, _) ← .read
  if q.id = 0 then insertQuiz cond else overwriteQuiz cond
  (reconcileQuestions cond).inContext fun (q, _) => s!"error upserting quiz {q.id}"

/-! ## Operations -/

/-- Store a new quiz; ids that the caller has given are forgotten. -/
def createQuiz : Attempt (Quiz × Connection) Unit := do
  .update fun (q, c) => (q.forget, c)
  transacting cond.plan (upsertQuiz cond)
  announce fun q => .quizCreated q.id q.slug

/-- Make the stored quiz and everything below it match the one given. -/
def updateQuiz : Attempt (Quiz × Connection) Unit := do
  let (q, _) ← .read
  if q.id = 0 then .fail (.store (.invalidOperation "cannot update quiz with ID 0"))
  transacting cond.plan (upsertQuiz cond)
  announce fun q => .quizUpdated q.id

/-- Store a new question under the quiz that it points at. -/
def createQuestion : Attempt (Question × Connection) Unit := do
  .update fun (q, c) => (q.forget, c)
  transacting cond.plan ((Question.reconciler cond.plan).upsert none)
  announce fun q => .questionCreated q.id q.quizId

/-- Make the stored question and its choices match the one given. -/
def updateQuestion : Attempt (Question × Connection) Unit := do
  let (q, _) ← .read
  if q.id = 0 then .fail (.store (.invalidOperation "cannot update question with ID 0"))
  transacting cond.plan ((Question.reconciler cond.plan).upsert none)
  announce fun q => .questionUpdated q.id

end Store

end TriviaStore
