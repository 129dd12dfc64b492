import TriviaStore.Quiz.Basic

/-! # Demonstration quizzes

The quizzes a fresh installation is seeded with.
-/

namespace TriviaStore

/-- A question after a capital, the right answer first. -/
def Question.capital (place : String) (position : Int) (right : String) (wrong : List String) :
    Question :=
  .new s!"What is the capital of {place}?" position
    (.new right true :: wrong.map (Choice.new · false))

/-- The quizzes of a fresh installation, unstored. -/
def demoQuizzes : List Quiz :=
  [.new "Quiz 1" "quiz-1" "This is a quiz"
    [.capital "France" 10 "Paris" ["Berlin", "Madrid", "Rome"],
     .capital "Spain" 20 "Madrid" ["Rome", "Paris", "Berlin"],
     .capital "Germany" 30 "Berlin" ["Paris", "Rome", "Madrid"]],
   .new "Quiz 2" "quiz-2" "This is another quiz" []]

end TriviaStore
