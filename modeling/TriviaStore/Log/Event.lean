import TriviaStore.Text.Quoted

/-! # Events

What the store reports while it works. An event has a level, a part of the program that reports it,
and a message.
-/

namespace TriviaStore

/-- How serious a record is. `unset` leaves the choice to someone else. -/
inductive Level
  | unset
  | debug
  | info
  | warning
  | error
  | critical
  deriving DecidableEq, Repr

/-- The rank of a level; a higher one is more serious. -/
def Level.rank : Level → Nat
  | .unset => 0
  | .debug => 10
  | .info => 20
  | .warning => 30
  | .error => 40
  | .critical => 50

def Level.name : Level → String
  | .unset => "NOTSET"
  | .debug => "DEBUG"
  | .info => "INFO"
  | .warning => "WARNING"
  | .error => "ERROR"
  | .critical => "CRITICAL"

/-- The parts of the program that report events. -/
inductive Reporter
  | database
  | reconciler
  | quizStore
  | seed
  | migrations
  | bootstrap
  | migrationEngine
  deriving DecidableEq, Repr

/-- The dotted name of a reporter's logger. -/
def Reporter.logger : Reporter → String
  | .database => "topbanana.core.database"
  | .reconciler => "topbanana.repositories.reconciler"
  | .quizStore => "topbanana.repositories.quiz_repository"
  | .seed => "topbanana.domain.seed_quiz"
  | .migrations => "topbanana.core.migrations"
  | .bootstrap => "topbanana.main"
  | .migrationEngine => "alembic.runtime.migration"

/-- Something that happened. -/
inductive Event
  | childCreated (kind : String) (id : Int)
  | childUpdated (kind : String) (id : Int)
  | childDeleted (kind : String) (id : Int)
  | committed
  | rolledBack
  | rollbackFailed (reason : String)
  | quizCreated (id : Int) (slug : Option String)
  | quizUpdated (id : Int)
  | questionCreated (id quizId : Int)
  | questionUpdated (id : Int)
  | demoSkipped (slug : Option String)
  | seeded (count : Nat)
  | upgrading (revision : String)
  | downgrading (revision : String)
  | starting (project environment : String)
  | ready
  | failed (message : String)
  | migrationDialect
  | migrationAutocommit
  | migrationStep (direction source target title : String)
  deriving DecidableEq, Repr

namespace Event

def level : Event → Level
  | childCreated _ _ => .debug
  | childUpdated _ _ => .debug
  | childDeleted _ _ => .debug
  | rollbackFailed _ => .error
  | failed _ => .error
  | _ => .info

def reporter : Event → Reporter
  | childCreated _ _ => .reconciler
  | childUpdated _ _ => .reconciler
  | childDeleted _ _ => .reconciler
  | committed => .database
  | rolledBack => .database
  | rollbackFailed _ => .database
  | quizCreated _ _ => .quizStore
  | quizUpdated _ => .quizStore
  | questionCreated _ _ => .quizStore
  | questionUpdated _ => .quizStore
  | demoSkipped _ => .seed
  | seeded _ => .seed
  | upgrading _ => .migrations
  | downgrading _ => .migrations
  | starting _ _ => .bootstrap
  | ready => .bootstrap
  | failed _ => .bootstrap
  | migrationDialect => .migrationEngine
  | migrationAutocommit => .migrationEngine
  | migrationStep _ _ _ _ => .migrationEngine

/-- A slug as it is shown. -/
def slugText : Option String → String
  | none => "None"
  | some s => s

/-- What is reported. -/
def message : Event → String
  | childCreated kind id => s!"Created {kind} {id}"
  | childUpdated kind id => s!"Updated {kind} {id}"
  | childDeleted kind id => s!"Deleted {kind} {id}"
  | committed => "✅ Committed transaction"
  | rolledBack => "↩️ Rolled back transaction"
  | rollbackFailed reason => s!"❌ Error rolling back transaction: {reason}"
  | quizCreated id slug => s!"✅ Created quiz {id} ({slugText slug})"
  | quizUpdated id => s!"✅ Updated quiz {id}"
  | questionCreated id quizId => s!"✅ Created question {id} in quiz {quizId}"
  | questionUpdated id => s!"✅ Updated question {id}"
  | demoSkipped slug => s!"Skipping quiz {Text.quotedOrNone slug}, already present"
  | seeded count => s!"🌱 Seeded {count} quizzes"
  | upgrading revision => s!"⬆️ Upgrading database schema to {revision}"
  | downgrading revision => s!"⬇️ Downgrading database schema to {revision}"
  | starting project environment => s!"🚀 Starting {project} ({environment})"
  | ready => "✅ Database ready"
  | failed reason => s!"❌ {reason}"
  | migrationDialect => "Context impl SQLiteImpl."
  | migrationAutocommit => "Will assume non-transactional DDL."
  | migrationStep direction source target title =>
    s!"Running {direction} {source} -> {target}, {title}"

end Event

end TriviaStore
