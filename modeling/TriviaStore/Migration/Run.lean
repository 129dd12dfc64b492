import TriviaStore.Database.Engine
import TriviaStore.Database.File
import TriviaStore.Migration.Revision
import TriviaStore.Migration.Target

/-! # Running migrations

Migrations change a database definition by definition. Nothing is undone when one is refused: what
was defined before it stays, and the heads keep naming the last migration that ran to its end.
-/

namespace TriviaStore.Migration

open Database

/-- The project that migrations belong to: its directory, and the address in its settings. -/
structure Project where
  root : String
  address : String
  deriving DecidableEq, Repr

/-- The place of the scripts in a project. -/
def scriptsPlace : String := "alembic"

/-- Check that the scripts are where the options say. -/
def Project.checkScripts (p : Project) (o : Options) : Except Error Unit := do
  let place ← (o.read Options.scripts).mapError .option
  let d := directory p.root (place.getD "")
  if d = directory p.root scriptsPlace then pure () else .error (.noScripts d)

/-! ## On a database -/

def Step.run (s : Step) (f : File) : Except Error Unit × File :=
  match f.defineAll s.definitions with
  | (.error e, f) => (.error (.schema e), f)
  | (.ok _, f) =>
    match s.mark f.heads with
    | .error e => (.error e, f)
    | .ok mark => (.ok (), { f with heads := mark.apply f.heads })

def Step.event (s : Step) : Event :=
  .migrationStep s.direction.verb s.source s.target s.migration.title

/-- Carry out steps in turn, up to the first failure, and report those that were begun. -/
def runSteps : List Step → File → Except Error Unit × File × List Event
  | [], f => (.ok (), f, [])
  | s :: ss, f =>
    match s.run f with
    | (.error e, f) => (.error e, f, [s.event])
    | (.ok _, f) =>
      let (r, f, events) := runSteps ss f
      (r, f, s.event :: events)

/-- Bring a database to a destination. A database without heads gets the table for them first. -/
def bring (direction : Direction) (destination : String) (f : File) :
    Except Error Unit × File × List Event :=
  let f := if f.heads.isEmpty then f.ensure versions else f
  match steps direction history f.heads destination with
  | .error e => (.error e, f, [])
  | .ok steps => runSteps steps f

/-- The head of a database, if migrations have run. There must not be several. -/
def current (f : File) : Except Error (Option String) :=
  match f.heads with
  | [] => .ok none
  | [v] => .ok (some v)
  | _ => .error .manyHeads

/-! ## On files -/

/-- What came of a run, the databases after it, and what was reported. -/
structure Outcome where
  result : Except Error Unit
  files : Files
  events : List Event

/-- The address that a run works on, once everything that was asked for is found to be in order. -/
def Project.prepare (p : Project) (t : Target) (destination : String) : Except Error String := do
  let o ← (t.options p.root).mapError .option
  p.checkScripts o
  if destination.contains ':' then .error .rangeGiven
  else (o.engineAddress p.address).mapError .option

/-- The report that begins a run. -/
def Direction.event (destination : String) : Direction → Event
  | .up => .upgrading destination
  | .down => .downgrading destination

/-- Bring the database of a target to a destination. One in memory is gone when the run ends. -/
def Project.migrate (p : Project) (direction : Direction) (t : Target) (destination : String)
    (files : Files) : Outcome :=
  let begun := direction.event destination
  match p.prepare t destination with
  | .error e => ⟨.error e, files, [begun]⟩
  | .ok address =>
    match Engine.create address {} with
    | .error e => ⟨.error (.engine e), files, [begun]⟩
    | .ok engine =>
      let name := engine.database.getD ""
      let (r, f, events) := bring direction destination (files.named name)
      { result := r
        files := if inMemory engine.database then files else files.put name f
        events := begun :: .migrationDialect :: .migrationAutocommit :: events }

end TriviaStore.Migration
