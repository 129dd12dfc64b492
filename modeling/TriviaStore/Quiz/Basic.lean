/-! # Quiz aggregates

A quiz owns questions and a question owns choices, both in the author's order. The id 0 marks an
entity that has never been stored; texts, positions and flags may be absent. Entities name their
parents by id, and the store fills in ids and creation times.
-/

namespace TriviaStore

/-- A point in time, in microseconds since the Unix epoch. -/
structure Instant where
  micros : Int
  deriving DecidableEq, Repr, Inhabited

/-- An answer to choose. -/
structure Choice (Key : Type := Int) where
  id : Key
  questionId : Key
  text : Option String
  correct : Option Bool
  deriving DecidableEq, Repr

/-- A question with its choices; the position is an ordering key of the author's own. -/
structure Question (Key : Type := Int) where
  id : Key
  quizId : Key
  text : Option String
  imageUrl : Option String
  position : Option Int
  choices : List Choice
  deriving DecidableEq, Repr

structure Quiz (Key : Type := Int) where
  id : Key
  title : Option String
  slug : Option String
  description : Option String
  createdAt : Option Instant
  questions : List Question
  deriving DecidableEq, Repr

/-- An unstored choice. -/
def Choice.new (text : String) (correct : Bool) : Choice :=
  { id := 0, questionId := 0, text := some text, correct := some correct }

def Question.new (text : String) (position : Int) (choices : List Choice) : Question :=
  { id := 0, quizId := 0, text := some text, imageUrl := some "", position := some position
    choices }

def Quiz.new (title slug description : String) (questions : List Question) : Quiz :=
  { id := 0, title := some title, slug := some slug, description := some description,
    createdAt := none, questions }

/-! ## Forgetting ids -/

/-- The choice as one that was never stored. Its parent stays named. -/
def Choice.forget (c : Choice) : Choice := { c with id := 0 }

/-- The question with its choices forgotten. -/
def Question.forgetChoices (q : Question) : Question :=
  { q with choices := q.choices.map Choice.forget }

/-- The question and its choices as ones that were never stored. -/
def Question.forget (q : Question) : Question := { q.forgetChoices with id := 0 }

/-- The quiz and everything in it as never stored. -/
def Quiz.forget (q : Quiz) : Quiz :=
  { q with id := 0, questions := q.questions.map Question.forget }

/-! ## From records -/

/-- A choice's record as the object layer hands it out: any column may be missing. -/
structure ChoiceRecord (Key : Type := Int) where
  id : Key
  questionId : Key
  text : Option String
  correct : Option Int
  deriving DecidableEq, Repr

structure QuestionRecord (Key : Type := Int) where
  id : Key
  quizId : Key
  text : Option String
  imageUrl : Option String
  position : Option Int
  deriving DecidableEq, Repr

structure QuizRecord (Key : Type := Int) where
  id : Key
  title : Option String
  slug : Option String
  description : Option String
  createdAt : Option Instant
  deriving DecidableEq, Repr

variable {Key : Type}

/-- A missing flag reads as false, and a stored one as true unless it is 0. -/
def Choice.ofRecord (r : ChoiceRecord Key) : Choice Key :=
  { id := r.id, questionId := r.questionId, text := r.text
    correct := some (r.correct.getD 0 != 0) }

/-- A missing image reads as the empty address. -/
def Question.ofRecord (r : QuestionRecord Key) (choices : List Choice) : Question Key :=
  { id := r.id, quizId := r.quizId, text := r.text, imageUrl := some (r.imageUrl.getD ""),
    position := r.position, choices }

/-- Every column of the quiz itself is taken over as it is. -/
def Quiz.ofRecord (r : QuizRecord Key) (questions : List Question) : Quiz Key :=
  { id := r.id, title := r.title, slug := r.slug, description := r.description,
    createdAt := r.createdAt, questions }

end TriviaStore
