import TriviaStore.Migration.Run

/-! # Migration scripts

A run can be written as a script instead of being carried out. It starts from a revision that is
given with the destination, as in `base:head`, and from the empty database when an upgrade gives
none.
-/

namespace TriviaStore.Migration

open Database

/-- The line that changes the heads. -/
def Mark.line : Mark → String
  | .add identifier =>
    s!"INSERT INTO alembic_version (version_num) VALUES ('{identifier}') RETURNING version_num;"
  | .remove identifier =>
    s!"DELETE FROM alembic_version WHERE alembic_version.version_num = '{identifier}';"
  | .replace old new =>
    s!"UPDATE alembic_version SET version_num='{new}' WHERE alembic_version.version_num = '{old}';"

/-- The lines of steps in turn. Where there are no heads the table for them is defined first. -/
def linesOf : List Step → List String → Except Error (List String)
  | [], _ => .ok []
  | s :: ss, heads => do
    let table := if heads.isEmpty then (Definition.createTable versions).lines else []
    let comment := s!"-- Running {s.direction.verb} {s.source} -> {s.target}"
    let mark ← s.mark heads
    let rest ← linesOf ss (mark.apply heads)
    pure (table ++ comment :: s.definitions.flatMap Definition.lines ++ mark.line :: rest)

/-- The start and the destination of a script. A downgrade must give both. -/
def range (direction : Direction) (s : String) : Except Error (Option String × String) :=
  match s.splitOn ":", direction with
  | [destination], .up => .ok (none, destination)
  | [_], .down => .error .rangeMissing
  | [start, destination], _ => .ok (some start, destination)
  | _, _ => .error .rangeTooLong

/-- The heads that a script starts from. -/
def startHeads (h : History) : Option String → Except Error (List String)
  | none => .ok []
  | some name => do
    let r ← revisionNamed h name
    pure ((h.take r).getLast?.map (·.identifier)).toList

/-- The script of a run under the given options. -/
def Project.script (p : Project) (direction : Direction) (o : Options) (s : String) :
    Except Error (List String) := do
  p.checkScripts o
  let (start, destination) ← range direction s
  let _ ← (o.address p.address).mapError .option
  let heads ← startHeads history start
  let steps ← steps direction history heads destination
  linesOf steps heads

/-- The options of the command line, which give no address. -/
def Project.commandLineOptions (p : Project) : Options :=
  [("here", p.root), (Options.scripts, scriptsPlace), ("prepend_sys_path", ".")]

end TriviaStore.Migration
