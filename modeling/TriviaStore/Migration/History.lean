import TriviaStore.Database.Schema

/-! # The history of the schema

The schema changes by migrations, each of which can be applied and taken back. A database keeps the
identifier of the last one applied in a table of its own.
-/

namespace TriviaStore

open Database

/-- A migration, with the definitions that apply it and those that take it back. -/
structure Migration where
  identifier : String
  title : String
  upward : List Definition
  downward : List Definition
  deriving DecidableEq, Repr

namespace Migration

/-! ## Tables -/

def integer (name : String) : ColumnShape := { name, type := "INTEGER", required := true }

/-- A column of texts that must be given. -/
def text (name : String) : ColumnShape := { name, type := "TEXT", required := true }

/-- A column of texts that is empty unless it is given. -/
def textOrEmpty (name : String) : ColumnShape := { text name with default := some "''" }

def quizzes : TableShape where
  name := "quizzes"
  columns := [integer "id", text "title", text "slug", textOrEmpty "description",
    { name := "created_at", type := "INTEGER", default := some "'0'" }]
  key := ["id"]
  unique := [["slug"]]

def questions : TableShape where
  name := "questions"
  columns := [integer "id", integer "quiz_id", textOrEmpty "text", textOrEmpty "image_url",
    integer "position"]
  key := ["id"]
  references := [⟨"quiz_id", "quizzes", "id"⟩]

def choices : TableShape where
  name := "options"
  columns := [integer "id", integer "question_id", text "text",
    { name := "is_correct", type := "BOOLEAN", required := true }]
  key := ["id"]
  references := [⟨"question_id", "questions", "id"⟩]

/-- The table that holds the identifier of the last migration applied. -/
def versions : TableShape where
  name := "alembic_version"
  columns := [{ name := "version_num", type := "VARCHAR(32)", required := true }]
  key := ["version_num"]
  keyName := some "alembic_version_pkc"

/-! ## Migrations -/

def questionsByQuiz : Index := ⟨"ix_questions_quiz_id", "questions", ["quiz_id"]⟩

def choicesByQuestion : Index := ⟨"ix_options_question_id", "options", ["question_id"]⟩

/-- The migration that defines the tables of the store. -/
def first : Migration where
  identifier := "0001_initial_quiz_tables"
  title := "initial quiz tables"
  upward := [.createTable quizzes, .createTable questions, .createIndex questionsByQuiz,
    .createTable choices, .createIndex choicesByQuestion]
  downward := [.dropIndex choicesByQuestion.name, .dropTable choices.name,
    .dropIndex questionsByQuiz.name, .dropTable questions.name, .dropTable quizzes.name]

/-- Migrations, each applied on top of those before it. -/
abbrev History := List Migration

def history : History := [first]

end Migration

end TriviaStore
