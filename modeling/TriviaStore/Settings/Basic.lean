import TriviaStore.Settings.EnvFile
import TriviaStore.Settings.Scalar
import TriviaStore.Text.Case

/-! # Settings

Eleven settings, each with a default. The environment is asked first and an environment file second;
names count in any case. In production the database must be named explicitly.
-/

namespace TriviaStore

inductive Setting
  | environment
  | projectName
  | host
  | port
  | databaseUrl
  | poolSize
  | maxOverflow
  | poolRecycle
  | echo
  | migrationsPath
  | logLevel
  deriving DecidableEq, Repr

def Setting.all : List Setting :=
  [.environment, .projectName, .host, .port, .databaseUrl, .poolSize, .maxOverflow, .poolRecycle,
    .echo, .migrationsPath, .logLevel]

def Setting.name : Setting → String
  | .environment => "ENVIRONMENT"
  | .projectName => "PROJECT_NAME"
  | .host => "HOST"
  | .port => "PORT"
  | .databaseUrl => "DATABASE_URL"
  | .poolSize => "DB_POOL_SIZE"
  | .maxOverflow => "DB_MAX_OVERFLOW"
  | .poolRecycle => "DB_POOL_RECYCLE"
  | .echo => "DB_ECHO"
  | .migrationsPath => "MIGRATIONS_PATH"
  | .logLevel => "LOG_LEVEL"

/-- The name of a setting in lower case, which is how names are compared. -/
def Setting.key (s : Setting) : String := s.name.map Char.toLower

structure Settings where
  environment : String := "development"
  projectName : String := "topbanana"
  host : String := "localhost"
  port : Int := 8080
  databaseUrl : String := "sqlite:///./topbanana.sqlite"
  poolSize : Int := 10
  maxOverflow : Int := 0
  poolRecycle : Int := 300
  echo : Bool := false
  migrationsPath : String := "alembic"
  logLevel : String := "INFO"
  deriving DecidableEq, Repr

namespace Settings

inductive Problem
  | notAnInteger (setting : Setting)
  | notATruthValue (setting : Setting)
  | unknownName (name : String)
  | databaseUnset
  deriving DecidableEq, Repr

/-- Where a problem lies. -/
def Problem.location : Problem → List String
  | notAnInteger s => [s.name]
  | notATruthValue s => [s.name]
  | unknownName n => [n]
  | databaseUnset => []

def Problem.kind : Problem → String
  | notAnInteger _ => "int_parsing"
  | notATruthValue _ => "bool_parsing"
  | unknownName _ => "extra_forbidden"
  | databaseUnset => "value_error"

def Problem.message : Problem → String
  | notAnInteger _ => "Input should be a valid integer, unable to parse string as an integer"
  | notATruthValue _ => "Input should be a valid boolean, unable to interpret input"
  | unknownName _ => "Extra inputs are not permitted"
  | databaseUnset => "Value error, DATABASE_URL must be set in production"

/-- Settings with what was given for them. -/
structure Loaded where
  settings : Settings
  given : List Setting
  deriving DecidableEq, Repr

/-! ## Sources -/

/-- The texts that the environment gives, by names in lower case; of names that differ only in case
the last one counts. -/
def environmentSource (environment : Assoc String) : Assoc String :=
  .ofPairs (environment.map fun (n, v) => (Text.lower n, v))

/-- The texts that an environment file gives, by names in lower case. -/
def fileSource (environment : Assoc String) (file : Option String) : Assoc (Option String) :=
  match file with
  | none => []
  | some f => .ofPairs ((EnvFile.resolve environment (EnvFile.parse f)).map fun (n, v) =>
      (Text.lower n, v))

/-- The text given for a setting: the environment's, else the file's. -/
def textOf (environment : Assoc String) (file : Assoc (Option String)) (s : Setting) :
    Option String :=
  (environment.get? s.key).orElse fun _ => (file.get? s.key).join

/-- The names in a file that are no settings, unless they are given nothing. -/
def unknownNames (file : Assoc (Option String)) : List String :=
  (file.filter fun (n, v) => v.getD "" != "" && !(Setting.all.map Setting.key).contains n).map (·.1)

/-! ## Values -/

/-- The settings with a text written into one of them. -/
def assign (settings : Settings) (setting : Setting) (text : String) : Except Problem Settings :=
  let integer (set : Int → Settings) : Except Problem Settings :=
    match integer? text with
    | some n => .ok (set n)
    | none => .error (.notAnInteger setting)
  match setting with
  | .environment => .ok { settings with environment := text }
  | .projectName => .ok { settings with projectName := text }
  | .host => .ok { settings with host := text }
  | .port => integer fun n => { settings with port := n }
  | .databaseUrl => .ok { settings with databaseUrl := text }
  | .poolSize => integer fun n => { settings with poolSize := n }
  | .maxOverflow => integer fun n => { settings with maxOverflow := n }
  | .poolRecycle => integer fun n => { settings with poolRecycle := n }
  | .echo =>
    match truth? text with
    | some b => .ok { settings with echo := b }
    | none => .error (.notATruthValue setting)
  | .migrationsPath => .ok { settings with migrationsPath := text }
  | .logLevel => .ok { settings with logLevel := text }

/-- The settings with every given text written in, and the problems met on the way. -/
def assignAll : List (Setting × String) → Settings → Settings × List Problem
  | [], settings => (settings, [])
  | (s, text) :: rest, settings =>
    match settings.assign s text with
    | .ok settings => assignAll rest settings
    | .error p =>
      let (settings, problems) := assignAll rest settings
      (settings, p :: problems)

/-- The texts given, in the order of the settings. -/
def givenTexts (environment : Assoc String) (file : Assoc (Option String)) :
    List (Setting × String) :=
  Setting.all.filterMap fun s => (textOf environment file s).map fun t => (s, t)

/-- Load the settings from an environment and the text of an environment file. Only settings without
other problems are asked whether production has its database. -/
def load (environment : Assoc String) (file : Option String) : Except (List Problem) Loaded :=
  let fromFile := fileSource environment file
  let given := givenTexts (environmentSource environment) fromFile
  let (settings, problems) := assignAll given {}
  let problems := problems ++ (unknownNames fromFile).map .unknownName
  if !problems.isEmpty then .error problems
  else if settings.environment = "production" ∧ .databaseUrl ∉ given.map (·.1) then
    .error [.databaseUnset]
  else .ok ⟨settings, given.map (·.1)⟩

end Settings

end TriviaStore
