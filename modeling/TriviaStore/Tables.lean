import TriviaStore.Failure
import TriviaStore.Ids
import TriviaStore.Time.Timestamp

/-! # Tables

The three tables of the store, with their rows in ascending order of ids. Columns that must not be
empty are not optional here: what would leave one empty is refused, and so are a slug that is taken
and a parent that does not exist. Deleting a question deletes its choices. A refused statement
changes nothing.
-/

namespace TriviaStore

/-- A stored quiz; the creation time is in milliseconds. -/
structure QuizRow where
  id : Int
  title : String
  slug : String
  description : String
  createdAt : Option Int
  deriving DecidableEq, Repr

structure QuestionRow where
  id : Int
  quizId : Int
  text : String
  imageUrl : String
  position : Int
  deriving DecidableEq, Repr

/-- A stored choice; the flag counts as true unless it is 0. -/
structure ChoiceRow where
  id : Int
  questionId : Int
  text : String
  isCorrect : Int
  deriving DecidableEq, Repr

structure Tables where
  quizzes : List QuizRow
  questions : List QuestionRow
  choices : List ChoiceRow
  deriving DecidableEq, Repr

/-! ## Records -/

/-- The record of a stored quiz. A creation time outside the calendar cannot be read. -/
def QuizRow.record (r : QuizRow) : Except Failure QuizRecord :=
  match r.createdAt with
  | none => .ok ⟨r.id, some r.title, some r.slug, some r.description, none⟩
  | some ms =>
    match Moment.ofMillis? ms with
    | none => .error .overflow
    | some m => .ok ⟨r.id, some r.title, some r.slug, some r.description, some m.toInstant⟩

def QuestionRow.record (r : QuestionRow) : QuestionRecord :=
  ⟨r.id, r.quizId, some r.text, some r.imageUrl, some r.position⟩

def ChoiceRow.record (r : ChoiceRow) : ChoiceRecord :=
  ⟨r.id, r.questionId, some r.text, some r.isCorrect⟩

def flag (b : Bool) : Int := if b then 1 else 0

namespace Tables

def empty : Tables := ⟨[], [], []⟩

/-- Refuse integers that the database cannot take. -/
def checkFit (ns : List Int) : Except Failure Unit :=
  if ns.all fits then .ok () else .error .overflow

/-- Refuse to leave a column empty. -/
def require {α : Type} (column : Column) : Option α → Except Failure α
  | some a => .ok a
  | none => .error (.driver (.violation (.notNull column)))

/-- Refuse what breaks a rule. -/
def refuseIf (broken : Bool) (rule : Violation) : Except Failure Unit :=
  if broken then .error (.driver (.violation rule)) else .ok ()

/-- The id of a new row. A table that has given out the largest id takes no more rows. -/
def newId (ids : List Int) : Except Failure Int :=
  if fits (freshId ids) then .ok (freshId ids)
  else .error (.driver (.operational "database or disk is full"))

/-! ## Quizzes -/

def allQuizzes (t : Tables) : Except Failure (List QuizRecord) := t.quizzes.mapM QuizRow.record

def quiz? (id : Int) (t : Tables) : Except Failure (Option QuizRecord) := do
  checkFit [id]
  match t.quizzes.find? (·.id == id) with
  | none => pure none
  | some r => some <$> r.record

/-- Add a quiz under a new id. A missing description is stored empty. -/
def insertQuiz (title slug description : Option String) (createdAt : Int) (t : Tables) :
    Except Failure (Int × Tables) := do
  checkFit [createdAt]
  let title ← require .quizTitle title
  let slug ← require .quizSlug slug
  refuseIf (t.quizzes.any (·.slug == slug)) .slugTaken
  let id ← newId (t.quizzes.map (·.id))
  let row : QuizRow := ⟨id, title, slug, description.getD "", some createdAt⟩
  pure (id, { t with quizzes := t.quizzes ++ [row] })

/-- Overwrite the quiz with an id, and count the rows. -/
def updateQuiz (id : Int) (title slug description : Option String) (t : Tables) :
    Except Failure (Nat × Tables) := do
  checkFit [id]
  if t.quizzes.any (·.id == id) then
    let title ← require .quizTitle title
    let slug ← require .quizSlug slug
    let description ← require .quizDescription description
    refuseIf (t.quizzes.any fun r => r.id != id && r.slug == slug) .slugTaken
    let quizzes := t.quizzes.map fun r =>
      if r.id = id then { r with title, slug, description } else r
    pure (1, { t with quizzes })
  else pure (0, t)

/-! ## Questions -/

def questionsOf (quizId : Int) (t : Tables) : Except Failure (List QuestionRow) := do
  checkFit [quizId]
  pure (t.questions.filter (·.quizId == quizId))

def question? (id : Int) (t : Tables) : Except Failure (Option QuestionRow) := do
  checkFit [id]
  pure (t.questions.find? (·.id == id))

/-- Add a question under a new id. A missing text or image is stored empty. -/
def insertQuestion (quizId : Int) (text imageUrl : Option String) (position : Option Int)
    (t : Tables) : Except Failure (Int × Tables) := do
  checkFit (quizId :: position.toList)
  let position ← require .questionPosition position
  refuseIf (!t.quizzes.any (·.id == quizId)) .missingParent
  let id ← newId (t.questions.map (·.id))
  let row : QuestionRow := ⟨id, quizId, text.getD "", imageUrl.getD "", position⟩
  pure (id, { t with questions := t.questions ++ [row] })

/-- Whether a statement about an id, and a parent if one is given, means a question. -/
def meansQuestion (id : Int) (quizId : Option Int) (r : QuestionRow) : Bool :=
  r.id == id && quizId.all (· == r.quizId)

/-- Overwrite the question with an id, in the given quiz only if there is one, and count the rows. -/
def updateQuestion (id : Int) (quizId : Option Int) (text imageUrl : Option String)
    (position : Option Int) (t : Tables) : Except Failure (Nat × Tables) := do
  checkFit (position.toList ++ id :: quizId.toList)
  if t.questions.any (meansQuestion id quizId) then
    let text ← require .questionText text
    let imageUrl ← require .questionImage imageUrl
    let position ← require .questionPosition position
    let questions := t.questions.map fun r =>
      if meansQuestion id quizId r then { r with text, imageUrl, position } else r
    pure (1, { t with questions })
  else pure (0, t)

/-- Delete the question with an id and the choices under it, and count the questions. -/
def deleteQuestion (id : Int) (t : Tables) : Except Failure (Nat × Tables) := do
  checkFit [id]
  if t.questions.any (·.id == id) then
    pure (1, { t with
      questions := t.questions.filter (·.id != id)
      choices := t.choices.filter (·.questionId != id) })
  else pure (0, t)

/-! ## Choices -/

def choicesOf (questionId : Int) (t : Tables) : Except Failure (List ChoiceRow) := do
  checkFit [questionId]
  pure (t.choices.filter (·.questionId == questionId))

def insertChoice (questionId : Int) (text : Option String) (correct : Option Bool) (t : Tables) :
    Except Failure (Int × Tables) := do
  checkFit [questionId]
  let text ← require .choiceText text
  let correct ← require .choiceCorrect correct
  refuseIf (!t.questions.any (·.id == questionId)) .missingParent
  let id ← newId (t.choices.map (·.id))
  pure (id, { t with choices := t.choices ++ [⟨id, questionId, text, flag correct⟩] })

def meansChoice (id : Int) (questionId : Option Int) (r : ChoiceRow) : Bool :=
  r.id == id && questionId.all (· == r.questionId)

/-- Overwrite the choice with an id, under the given question only if there is one, and count. -/
def updateChoice (id : Int) (questionId : Option Int) (text : Option String)
    (correct : Option Bool) (t : Tables) : Except Failure (Nat × Tables) := do
  checkFit (id :: questionId.toList)
  if t.choices.any (meansChoice id questionId) then
    let text ← require .choiceText text
    let correct ← require .choiceCorrect correct
    let choices := t.choices.map fun r =>
      if meansChoice id questionId r then { r with text, isCorrect := flag correct } else r
    pure (1, { t with choices })
  else pure (0, t)

def deleteChoice (id : Int) (t : Tables) : Except Failure (Nat × Tables) := do
  checkFit [id]
  if t.choices.any (·.id == id) then
    pure (1, { t with choices := t.choices.filter (·.id != id) })
  else pure (0, t)

/-! ## Bulk loading -/

/-- Add rows to each table as they are, and bring the tables into the order of their ids. -/
def load (more t : Tables) : Tables where
  quizzes := (t.quizzes ++ more.quizzes).mergeSort fun a b => a.id ≤ b.id
  questions := (t.questions ++ more.questions).mergeSort fun a b => a.id ≤ b.id
  choices := (t.choices ++ more.choices).mergeSort fun a b => a.id ≤ b.id

end Tables

end TriviaStore
