import TriviaStore.Assoc
import TriviaStore.Quiz.Basic

/-! # What a quiz still lacks

A text is missing when it is absent or empty, and a question needs choices. Each thing missing has
a place in the quiz, and the report maps the written path of the place to what is required there.
-/

namespace TriviaStore

/-- A text that is absent or empty; blanks count as text. -/
def isMissing (text : Option String) : Bool := text.getD "" == ""

/-- What a question can lack by itself. -/
inductive QuestionGap
  | text
  | choices
  deriving DecidableEq, Repr

/-- A place in a quiz where something is missing; questions and choices are counted from 0. -/
inductive Gap
  | title
  | slug
  | description
  | question (index : Nat) (gap : QuestionGap)
  | choice (question : Nat) (index : Nat)
  deriving DecidableEq, Repr

def QuestionGap.path : QuestionGap → String
  | .text => "text"
  | .choices => "options"

/-- What is required to close a gap of a question. -/
def QuestionGap.requirement : QuestionGap → String
  | .text => "Text is required"
  | .choices => "Options are required"

def Gap.path : Gap → String
  | .title => "title"
  | .slug => "slug"
  | .description => "description"
  | .question i g => s!"questions[{i}][{g.path}]"
  | .choice i j => s!"questions[{i}].options[{j}][text]"

/-- What is required to close a gap. -/
def Gap.requirement : Gap → String
  | .title => "Title is required"
  | .slug => "Slug is required"
  | .description => "Description is required"
  | .question _ g => g.requirement
  | .choice _ _ => "Text is required"

/-! ## Gaps -/

def Choice.lacksText (c : Choice) : Bool := isMissing c.text

/-- The gaps of a question itself; those of its choices belong to the quiz. -/
def Question.gaps (q : Question) : List QuestionGap :=
  (if isMissing q.text then [.text] else []) ++ (if q.choices.isEmpty then [.choices] else [])

/-- The gaps of the choices from index `j` on, in question `i`. -/
def choiceGaps (i : Nat) : Nat → List Choice → List Gap
  | _, [] => []
  | j, c :: cs => (if c.lacksText then [.choice i j] else []) ++ choiceGaps i (j + 1) cs

/-- The gaps of the questions from index `i` on, each question's own before its choices'. -/
def questionGaps : Nat → List Question → List Gap
  | _, [] => []
  | i, q :: qs => q.gaps.map (.question i) ++ choiceGaps i 0 q.choices ++ questionGaps (i + 1) qs

/-- Every gap in the whole quiz. -/
def Quiz.gaps (q : Quiz) : List Gap :=
  (if isMissing q.title then [.title] else []) ++ (if isMissing q.slug then [.slug] else []) ++
    (if isMissing q.description then [.description] else []) ++ questionGaps 0 q.questions

/-! ## Reports -/

/-- A map from paths to requirements. -/
abbrev Report := Assoc String

def Choice.problems (c : Choice) : Report :=
  .ofPairs (if c.lacksText then [("text", "Text is required")] else [])

def Question.problems (q : Question) : Report :=
  .ofPairs (q.gaps.map fun g => (g.path, g.requirement))

/-- The report on a whole quiz, empty when nothing is missing. -/
def Quiz.problems (q : Quiz) : Report := .ofPairs (q.gaps.map fun g => (g.path, g.requirement))

end TriviaStore
