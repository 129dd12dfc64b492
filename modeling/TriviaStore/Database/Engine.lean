import TriviaStore.Database.Url
import TriviaStore.Text.Quoted

/-! # Engines

How connections to a database are pooled. A database in memory is shared through one connection,
since every other connection would see an empty database of its own; one in a file has a queue of
connections, checked before use.
-/

namespace TriviaStore.Database

/-- What a caller can ask of an engine. -/
structure Options where
  poolSize : Int := 10
  maxOverflow : Int := 0
  poolRecycle : Int := 300
  echo : Bool := false
  deriving DecidableEq, Repr

inductive Pool
  | shared
  | queue (size overflow recycle : Int)
  deriving DecidableEq, Repr

/-- After how many seconds a connection is replaced, -1 for never. -/
def Pool.recycle : Pool → Int
  | .shared => -1
  | .queue _ _ recycle => recycle

/-- Whether a connection is checked before use. -/
def Pool.checksFirst : Pool → Bool
  | .shared => false
  | .queue _ _ _ => true

/-- An engine for a database. Foreign keys are enforced on every connection. -/
structure Engine where
  backend : String
  database : Option String
  pool : Pool
  echo : Bool
  deriving DecidableEq, Repr

/-- Why an address gives no engine. -/
inductive EngineError
  | unreadable
  | unknownDriver (driver : String)
  | serverNamed (url : Url)
  | badPort (port : String)
  deriving DecidableEq, Repr

/-- The error in words. A driver is looked up by its words joined by dots. -/
def EngineError.message : EngineError → String
  | .unreadable => "Could not parse SQLAlchemy URL from given URL string"
  | .unknownDriver driver =>
    let name := driver.map fun c => if c = '+' then '.' else c
    s!"Can't load plugin: sqlalchemy.dialects:{name}"
  | .serverNamed url =>
    s!"Invalid SQLite URL: {url.shown}\nValid SQLite URL forms are sqlite:///:memory: or " ++
      "sqlite:////absolute/path/to/file.db"
  | .badPort port => s!"invalid literal for int() with base 10: {Text.quoted port}"

def knownDrivers : List String := ["sqlite", "sqlite+pysqlite"]

/-- Whether a database lives in memory. -/
def inMemory (database : Option String) : Bool :=
  match database with
  | none => true
  | some d => d == "" || d == ":memory:"

/-- The engine for an address. -/
def Engine.create (address : String) (options : Options) : Except EngineError Engine :=
  match Url.parse? address with
  | none => .error .unreadable
  | some url =>
    let port := url.port.getD ""
    if !port.toList.all Char.isDigit then .error (.badPort port)
    else if !knownDrivers.contains url.driver then .error (.unknownDriver url.driver)
    else if url.namesServer then .error (.serverNamed url)
    else .ok {
      backend := "sqlite"
      database := url.database
      pool :=
        if inMemory url.database then .shared
        else .queue options.poolSize options.maxOverflow options.poolRecycle
      echo := options.echo }

/-- The name of the database at an address, empty where there is none. -/
def databaseName (address : String) : String :=
  match Engine.create address {} with
  | .ok e => e.database.getD ""
  | .error _ => ""

end TriviaStore.Database
