import TriviaStore.Connection

/-! # Reading

Whole aggregates are assembled from the flat rows, parents and children in ascending order of ids:
first a table's rows are read, then what is below each of them in turn.
-/

namespace TriviaStore.Store

variable (plan : Plan Statement)

def loadChoices (questionId : Int) : Attempt Connection (List Choice) := do
  let rows ← Connection.query plan .choices (Tables.choicesOf questionId)
  pure (rows.map fun r => .ofRecord r.record)

def loadQuestion (row : QuestionRow) : Attempt Connection Question := do
  let choices ← loadChoices plan row.id
  pure (.ofRecord row.record choices)

def loadQuestions (quizId : Int) : Attempt Connection (List Question) := do
  let rows ← Connection.query plan .questions (Tables.questionsOf quizId)
  Attempt.collect (loadQuestion plan) rows

def loadQuiz (record : QuizRecord) : Attempt Connection Quiz := do
  let questions ← loadQuestions plan record.id
  pure (.ofRecord record questions)

/-! ## Operations -/

/-- Check that the database can be reached. -/
def ping : Attempt Connection Unit :=
  Connection.reading ((Connection.ping plan).wrapping fun _ => "failed to ping database")

def listQuizzes : Attempt Connection (List Quiz) :=
  Connection.reading <| Attempt.wrapping (fun _ => "failed to list quizzes") do
    let records ← Connection.query plan .quizzes Tables.allQuizzes
    Attempt.collect (loadQuiz plan) records

def getQuiz (id : Int) : Attempt Connection Quiz :=
  Connection.reading <| Attempt.wrapping (fun _ => s!"failed to get quiz {id}") do
    match ← Connection.query plan .quizzes (Tables.quiz? id) with
    | none => .fail (.store (.quizNotFound id))
    | some record => loadQuiz plan record

def getQuestion (id : Int) : Attempt Connection Question :=
  Connection.reading <| Attempt.wrapping (fun _ => s!"failed to get question {id}") do
    match ← Connection.query plan .questions (Tables.question? id) with
    | none => .fail (.store (.questionNotFound id))
    | some row => loadQuestion plan row

end TriviaStore.Store
