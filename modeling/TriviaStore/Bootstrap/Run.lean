import TriviaStore.Bootstrap.Arguments
import TriviaStore.Log.Routing
import TriviaStore.Migration.Run
import TriviaStore.Settings.Basic
import TriviaStore.Store.Seed

/-! # Bootstrap

Before a server starts, the database is brought to the head of its history, asked whether it
answers, and filled with the demonstration quizzes if that is wanted. A failure of the store ends
the program with status 1; anything else that goes wrong is not dealt with here.
-/

namespace TriviaStore.Bootstrap

open Database Migration

/-- Why a run breaks off. -/
inductive Trouble
  | logLevel (error : Log.UnknownLevel)
  | migration (error : Migration.Error)
  | store (error : Failure)
  deriving DecidableEq, Repr

/-- How a run ends. -/
inductive End
  | exited (status : Nat)
  | finished (status : Nat) (lines : List String)
  | broken (trouble : Trouble) (lines : List String)
  deriving DecidableEq, Repr

/-- The work on the store. -/
def work (cond : Conditions) (seed : Bool) : Attempt Connection Unit := do
  Store.ping cond.plan
  if seed then
    let _ ← Store.seed cond
    pure ()

/-- Run with the given settings below a project's root. -/
def run (root : String) (settings : Settings) (cond : Conditions) (arguments : List String)
    (files : Files) : End × Files :=
  match Request.ofArguments arguments with
  | .help => (.exited 0, files)
  | .refused => (.exited 2, files)
  | .run seed =>
    match Log.Loggers.setup settings.logLevel with
    | .error e => (.broken (.logLevel e) [], files)
    | .ok loggers =>
      let lines := fun (events : List Event) => loggers.writeAll (events.map Log.Record.ofEvent)
      let begun := Event.starting settings.projectName settings.environment
      let project : Project := ⟨root, settings.databaseUrl⟩
      let target : Target := ⟨settings.databaseUrl, settings.migrationsPath⟩
      let migrated := project.migrate .up target "head" files
      match migrated.result with
      | .error e => (.broken (.migration e) (lines (begun :: migrated.events)), migrated.files)
      | .ok _ =>
        let name := databaseName settings.databaseUrl
        let f := migrated.files.named name
        let cond := { cond with plan := .firstOf [cond.plan, f.plan] }
        let (r, c) := work cond seed (.onto f.rows)
        let files := migrated.files.put name { f with rows := c.committed }
        let before := begun :: migrated.events ++ c.events
        match r with
        | .ok _ => (.finished 0 (lines (before ++ [.ready])), files)
        | .error (.store e) => (.finished 1 (lines (before ++ [.failed e.message])), files)
        | .error e => (.broken (.store e) (lines before), files)

end TriviaStore.Bootstrap
