import TriviaStore.Quiz.Demo
import TriviaStore.Store.Write

/-! # Seeding

The demonstration quizzes whose slugs are free are created, each in a transaction of its own.
-/

namespace TriviaStore.Store

variable (cond : Conditions)

/-- Create a quiz from nothing and give it as it was stored. -/
def creating (q : Quiz) : Attempt Connection Quiz := fun c =>
  match createQuiz cond (q, c) with
  | (.ok _, (q', c')) => (.ok q', c')
  | (.error e, (_, c')) => (.error e, c')

/-- Create those of the quizzes whose slugs are not taken. -/
def createMissing (taken : List (Option String)) : List Quiz → Attempt Connection (List Quiz)
  | [] => .done []
  | q :: qs =>
    if taken.contains q.slug then do
      .update (Connection.note (.demoSkipped q.slug))
      createMissing taken qs
    else do
      let q ← creating cond q
      let created ← createMissing taken qs
      pure (q :: created)

/-- Create the demonstration quizzes that are missing, and give those that were created. -/
def seed : Attempt Connection (List Quiz) := do
  let present ← listQuizzes cond.plan
  let created ← createMissing cond (present.map (·.slug)) demoQuizzes
  .update (Connection.note (.seeded created.length))
  pure created

end TriviaStore.Store
