/-! # Failures

What can go wrong in the store. The database driver reports errors of its own, the store adds errors
that say which operation was under way, and the caller's code may fail with anything else. A store
error keeps the driver's error that caused it, and gains context on its way out.
-/

namespace TriviaStore

/-! ## Driver errors -/

/-- The columns that must not be empty. -/
inductive Column
  | quizTitle
  | quizSlug
  | quizDescription
  | questionText
  | questionImage
  | questionPosition
  | choiceText
  | choiceCorrect
  deriving DecidableEq, Repr

/-- A column with its table, as the database writes it. -/
def Column.name : Column → String
  | .quizTitle => "quizzes.title"
  | .quizSlug => "quizzes.slug"
  | .quizDescription => "quizzes.description"
  | .questionText => "questions.text"
  | .questionImage => "questions.image_url"
  | .questionPosition => "questions.position"
  | .choiceText => "options.text"
  | .choiceCorrect => "options.is_correct"

inductive Violation
  | notNull (column : Column)
  | slugTaken
  | missingParent
  deriving DecidableEq, Repr

/-- The database's words for a broken rule. -/
def Violation.message : Violation → String
  | .notNull c => s!"NOT NULL constraint failed: {c.name}"
  | .slugTaken => "UNIQUE constraint failed: quizzes.slug"
  | .missingParent => "FOREIGN KEY constraint failed"

inductive DriverError
  /-- An error known only by its message. -/
  | reported (message : String)
  | violation (rule : Violation)
  /-- A statement that the database cannot carry out. -/
  | operational (message : String)
  deriving DecidableEq, Repr

def DriverError.message : DriverError → String
  | .reported m => m
  | .violation v => v.message
  | .operational m => m

/-! ## Store errors -/

/-- A write by id that found no row; what was to be written, and whether it was to be deleted. -/
inductive Miss
  | updatingRow
  | updatingQuiz
  | updatingQuestion
  | updatingChoice
  | deletingQuestion
  | deletingChoice
  deriving DecidableEq, Repr

def Miss.kind : Miss → String
  | .updatingRow => "row"
  | .updatingQuiz => "quiz"
  | .updatingQuestion => "question"
  | .updatingChoice => "option"
  | .deletingQuestion => "question"
  | .deletingChoice => "option"

def Miss.action : Miss → String
  | .updatingRow => "updating"
  | .updatingQuiz => "updating"
  | .updatingQuestion => "updating"
  | .updatingChoice => "updating"
  | .deletingQuestion => "deleting"
  | .deletingChoice => "deleting"

inductive StoreError.Kind
  | general
  | quizNotFound (id : Int)
  | questionNotFound (id : Int)
  | missed (write : Miss) (id : Int)
  | invalidOperation
  | transaction
  deriving DecidableEq, Repr

/-- A store error with its arguments, the first of which is the message. -/
structure StoreError where
  kind : StoreError.Kind
  arguments : List String
  cause : Option DriverError
  deriving DecidableEq, Repr

namespace StoreError

/-- A failed operation with nothing more to say about it than the message. -/
def general (message : String) : StoreError := ⟨.general, [message], none⟩

/-- A failed operation caused by the driver. -/
def because (message : String) (cause : DriverError) : StoreError :=
  ⟨.general, [message], some cause⟩

def quizNotFound (id : Int) : StoreError := ⟨.quizNotFound id, [s!"quiz {id} not found"], none⟩

def questionNotFound (id : Int) : StoreError :=
  ⟨.questionNotFound id, [s!"question {id} not found"], none⟩

def missed (write : Miss) (id : Int) : StoreError :=
  ⟨.missed write id, [s!"no rows affected when {write.action} {write.kind} {id}"], none⟩

/-- A precondition failed before anything was attempted. -/
def invalidOperation (message : String) : StoreError := ⟨.invalidOperation, [message], none⟩

/-- A transaction could not be begun or committed. -/
def transaction (message : String) (cause : Option DriverError) : StoreError :=
  ⟨.transaction, [message], cause⟩

/-- The message, empty when the error was given none. -/
def message (e : StoreError) : String := e.arguments.headD ""

/-- The error with the operation that was under way put in front of its message. -/
def addContext (e : StoreError) (context : String) : StoreError :=
  { e with arguments := s!"{context}: {e.message}" :: e.arguments.tail }

/-- The error as one text, if it has no more than a message. -/
def text? (e : StoreError) : Option String :=
  match e.arguments with
  | [] => some ""
  | [m] => some m
  | _ :: _ :: _ => none

def Kind.id? : Kind → Option Int
  | .quizNotFound id => some id
  | .questionNotFound id => some id
  | .missed _ id => some id
  | .general => none
  | .invalidOperation => none
  | .transaction => none

end StoreError

/-! ## Any failure -/

/-- Errors that neither the store nor the driver raises. -/
inductive Outside
  | runtime
  | value
  | interrupt
  /-- There is nothing more to go on with. -/
  | exhausted
  /-- Nobody will go on with this. -/
  | abandoned
  deriving DecidableEq, Repr

/-- Whatever can end an operation early. -/
inductive Failure
  | store (error : StoreError)
  | driver (error : DriverError)
  /-- An integer that does not fit into 64 bits, or a moment outside the calendar. -/
  | overflow
  | outside (kind : Outside) (message : String)
  /-- The runtime error that stands for an exhaustion which came out of a routine, its cause; the
  message is that of the cause. -/
  | escaped (cause : String)
  deriving DecidableEq, Repr

/-- The message of a failure; an overflow has none. -/
def Failure.message : Failure → String
  | .store e => e.message
  | .driver e => e.message
  | .overflow => ""
  | .outside _ m => m
  | .escaped _ => "generator raised StopIteration"

end TriviaStore
