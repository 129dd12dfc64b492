import TriviaStore.Connection
import TriviaStore.Reconcile

/-! # Stored children

Choices under their questions and questions under their quizzes, as reconciliation sees them on a
connection. Going on below a question reconciles its choices.
-/

namespace TriviaStore

/-- An attempt on an entity together with the connection, that fills in the entity's id. -/
def assigning {τ : Type} (insert : τ → Attempt Connection Int) (set : Int → τ → τ) :
    Attempt (τ × Connection) Unit := fun (t, c) =>
  match insert t c with
  | (.ok id, c') => (.ok (), (set id t, c'))
  | (.error e, c') => (.error e, (t, c'))

namespace Choice

variable (plan : Plan Statement)

/-- Choices under their questions. -/
def reconciler : Reconciler Connection Choice where
  kind := "option"
  parentKind := "question"
  notUpdated := .updatingChoice
  notDeleted := .deletingChoice
  id := (·.id)
  parent := (·.questionId)
  attach questionId c := { c with questionId }
  existing questionId :=
    Connection.query plan .choices fun t => (t.choicesOf questionId).map (·.map (·.id))
  reset := .done ()
  create := assigning
    (fun c => Connection.insert plan .choices (Tables.insertChoice c.questionId c.text c.correct))
    fun id c => { c with id }
  update parent := fun (c, conn) =>
    let (r, conn') := Connection.write plan (.update .choices)
      (Tables.updateChoice c.id parent c.text c.correct) conn
    (r, (c, conn'))
  delete id := Connection.write plan (.delete .choices) (Tables.deleteChoice id)
  descend := .done ()
  note := Connection.note

end Choice

namespace Question

variable (plan : Plan Statement)

/-- Look up the quiz that a question is stored under, and point the question at it. -/
def findOwner : Attempt (Question × Connection) Unit := fun (q, c) =>
  match Connection.query plan .questions (Tables.question? q.id) c with
  | (.ok (some row), c') => (.ok (), ({ q with quizId := row.quizId }, c'))
  | (.ok none, c') => (.ok (), (q, c'))
  | (.error e, c') => (.error e, (q, c'))

/-- Update the question's row. A question updated by its id alone is pointed at its owner. -/
def update (parent : Option Int) : Attempt (Question × Connection) Nat := do
  let (q, _) ← .read
  let rows ← (Connection.write plan (.update .questions)
    (Tables.updateQuestion q.id parent q.text q.imageUrl q.position)).onSecond
  if rows ≠ 0 ∧ parent = none then findOwner plan
  pure rows

/-- Reconcile the choices under the question. -/
def reconcileChoices : Attempt (Question × Connection) Unit := fun (q, c) =>
  let (r, (choices, c')) := (Choice.reconciler plan).reconcile q.id (q.choices, c)
  (r.map fun _ => (), ({ q with choices }, c'))

/-- Questions under their quizzes. -/
def reconciler : Reconciler Connection Question where
  kind := "question"
  parentKind := "quiz"
  notUpdated := .updatingQuestion
  notDeleted := .deletingQuestion
  id := (·.id)
  parent := (·.quizId)
  attach quizId q := { q with quizId }
  existing quizId :=
    Connection.query plan .questions fun t => (t.questionsOf quizId).map (·.map (·.id))
  reset := .update fun (q, c) => (q.forgetChoices, c)
  create := assigning
    (fun q => Connection.insert plan .questions
      (Tables.insertQuestion q.quizId q.text q.imageUrl q.position))
    fun id q => { q with id }
  update := update plan
  delete id := Connection.write plan (.delete .questions) (Tables.deleteQuestion id)
  descend := reconcileChoices plan
  note := Connection.note

end Question

end TriviaStore
