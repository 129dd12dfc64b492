import TriviaStore.Log.Event
import TriviaStore.Text.Case

/-! # Log routing

Loggers have dotted names and form a tree below the root, which grows as records are sent to loggers
that are new. A logger without a level of its own takes the one of its nearest ancestor that has one,
and a record is handed up the tree to every handler on the way until a logger stops it. One handler,
the console, serves the three loggers configured here.
-/

namespace TriviaStore.Log

/-! ## Configuration -/

/-- The configuration of one logger. The root logger has the empty name and nowhere to propagate. -/
structure LoggerConfig where
  name : String
  level : String
  propagates : Option Bool
  deriving DecidableEq, Repr

/-- A configuration: the console's level and line format, and the loggers that write to it. -/
structure Config where
  format : String
  consoleLevel : String
  loggers : List LoggerConfig
  deriving DecidableEq, Repr

/-- The configuration for a level by name. Migrations are reported from INFO on and everything from
elsewhere from WARNING on. -/
def Config.build (level : String) : Config where
  format := "%(asctime)s - %(name)s - %(levelname)s - %(message)s"
  consoleLevel := level
  loggers := [⟨"topbanana", level, some false⟩, ⟨"alembic", "INFO", some false⟩,
    ⟨"", "WARNING", none⟩]

def defaultLevel : String := "INFO"

/-! ## Levels -/

/-- The level with a name; two of the levels have a second one. -/
def levelNamed? (name : String) : Option Level :=
  match name with
  | "NOTSET" => some .unset
  | "DEBUG" => some .debug
  | "INFO" => some .info
  | "WARN" => some .warning
  | "WARNING" => some .warning
  | "ERROR" => some .error
  | "FATAL" => some .critical
  | "CRITICAL" => some .critical
  | _ => none

/-- A name that is no level. -/
structure UnknownLevel where
  name : String
  deriving DecidableEq, Repr

/-- What could not be done because of an unknown level. -/
def UnknownLevel.message (_ : UnknownLevel) : String := "Unable to configure handler 'console'"

/-- Why it could not be done. -/
def UnknownLevel.reason (e : UnknownLevel) : String := s!"Unknown level: {Text.quoted e.name}"

/-! ## Loggers -/

/-- A logger that writes to the console. -/
structure Logger where
  name : String
  level : Level
  propagates : Bool
  deriving DecidableEq, Repr

/-- Loggers with their root, and the level of the console. -/
structure Loggers where
  console : Level
  root : Level
  named : List Logger
  deriving DecidableEq, Repr

structure Record where
  logger : String
  level : Level
  message : String
  deriving DecidableEq, Repr

def Record.ofEvent (e : Event) : Record := ⟨e.reporter.logger, e.level, e.message⟩

def rootName : String := "root"

/-- A logger's name as it is shown. -/
def shownName (name : String) : String := if name = "" then rootName else name

/-- The record as a line, without the time. -/
def Record.line (r : Record) : String := s!"{shownName r.logger} - {r.level.name} - {r.message}"

namespace Loggers

/-- Put a configuration into effect. -/
def ofConfig (c : Config) : Except UnknownLevel Loggers := do
  let level := fun (name : String) =>
    match levelNamed? name with
    | some l => Except.ok l
    | none => .error (UnknownLevel.mk name)
  let console ← level c.consoleLevel
  let loggers ← c.loggers.mapM fun l => do
    pure (⟨l.name, ← level l.level, l.propagates.getD true⟩ : Logger)
  pure {
    console
    root := ((loggers.find? (·.name == "")).map (·.level)).getD .warning
    named := loggers.filter (·.name != "") }

/-- Loggers for a level by name, in any case. -/
def setup (level : String) : Except UnknownLevel Loggers := ofConfig (.build (Text.upper level))

/-! ## The tree -/

/-- The ancestors of a logger below the root, the nearest first, among the loggers that exist. The name
is read from its end, and its beginnings before a dot are looked up. Behind one that is not found the
next character is passed over, even if it is a dot; a dot at the very front does not count. -/
def ancestors (existing : List String) : List Char → List String
  | '.' :: c :: s =>
    let beginning := String.ofList (c :: s).reverse
    if beginning ∈ existing then beginning :: ancestors existing (c :: s) else ancestors existing s
  | _ :: s => ancestors existing s
  | [] => []

/-- A logger's name and those of its ancestors. The root itself has none. -/
def lineage (existing : List String) (name : String) : List String :=
  if name = "" ∨ name = rootName then [] else name :: ancestors existing name.toList.reverse

variable (l : Loggers) (existing : List String)

/-- The configured loggers among a logger and its ancestors, the nearest first, where others exist as
well. -/
def path (name : String) : List Logger :=
  (lineage (l.named.map (·.name) ++ existing) name).filterMap fun n => l.named.find? (·.name == n)

/-- The level from which on a logger lets records pass. -/
def effectiveLevel (name : String) : Level :=
  (((l.path existing name).map (·.level)).find? (· != .unset)).getD l.root

/-- How many handlers a record reaches on its way up, the root's included. -/
def handlersReached : List Logger → Nat
  | [] => 1
  | g :: gs => if g.propagates then handlersReached gs + 1 else 1

/-! ## Records -/

/-- The loggers that exist once records were sent. -/
def existingAfter (sent : List Record) : List String := existing ++ sent.map (·.logger)

/-- What was sent before the first record of the same logger and level. -/
def beforeFirst (sent : List Record) (r : Record) : List Record :=
  sent.takeWhile fun s => !(s.logger == r.logger && s.level == r.level)

/-- Whether a logger lets a record pass after others. It decides on a level once, at the first record of
that level, and does not ask again when the tree has grown. -/
def lets (sent : List Record) (r : Record) : Bool :=
  (l.effectiveLevel (existingAfter existing (beforeFirst sent r)) r.logger).rank ≤ r.level.rank

/-- What is written of a record after others. -/
def write (sent : List Record) (r : Record) : List String :=
  if l.lets existing sent r ∧ l.console.rank ≤ r.level.rank then
    List.replicate (handlersReached (l.path (existingAfter existing sent) r.logger)) r.line
  else []

/-- What is written of records in turn after others. -/
def writeAfter : List Record → List Record → List String
  | _, [] => []
  | sent, r :: records => l.write existing sent r ++ writeAfter (sent ++ [r]) records

/-- What is written of records in turn. -/
def writeAll (records : List Record) : List String := l.writeAfter [] [] records

end Loggers

end TriviaStore.Log
