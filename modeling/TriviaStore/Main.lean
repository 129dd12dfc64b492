import Std.Time.DateTime.Timestamp
import TriviaStore.Bootstrap.Run

/-! # Command line

Reads the settings, runs the bootstrap on a database that lives as long as the program, and writes
the log to the standard error stream.
-/

open TriviaStore

def usage : String :=
  "usage: triviastore [-h] [--seed]\n\ntriviastore bootstrap\n\noptions:\n" ++
    "  -h, --help  show this help message and exit\n" ++
    "  --seed      create the demo quizzes"

def fileText (path : String) : IO (Option String) := do
  try return some (← IO.FS.readFile path)
  catch _ => return none

/-- A variable and its value, as the system lists them. -/
def entry? (line : String) : Option (String × String) :=
  match line.toList.span (· != '=') with
  | (name, _ :: value) => some (String.ofList name, String.ofList value)
  | (_, []) => none

/-- The variables of the environment. Where the system does not list them, only those can be read whose
names are known, in capital letters. -/
def environment : IO (Assoc String) := do
  match ← fileText "/proc/self/environ" with
  | some listed => return (listed.splitOn "\x00").filterMap entry?
  | none => Setting.all.filterMapM fun s => do
    return (← IO.getEnv s.name).map fun v => (s.name, v)

def clock : IO Instant := do
  let now ← Std.Time.Timestamp.now
  return ⟨now.toNanosecondsSinceUnixEpoch.val / 1000⟩

def troubleText : Bootstrap.Trouble → String
  | .logLevel e => s!"{e.message}: {e.reason}"
  | .migration e => e.message
  | .store e => e.message

def main (arguments : List String) : IO UInt32 := do
  match Settings.load (← environment) (← fileText ".env") with
  | .error problems =>
    for p in problems do
      let place := ".".intercalate p.location
      IO.eprintln s!"{place}: {p.message}"
    return 1
  | .ok loaded =>
    let (ending, _) := Bootstrap.run "." loaded.settings ⟨← clock, .quiet⟩ arguments []
    match ending with
    | .exited status =>
      if status = 0 then IO.println usage else IO.eprintln usage
      return status.toUInt32
    | .finished status lines =>
      lines.forM fun l => IO.eprintln l
      return status.toUInt32
    | .broken trouble lines =>
      lines.forM fun l => IO.eprintln l
      IO.eprintln (troubleText trouble)
      return 1
