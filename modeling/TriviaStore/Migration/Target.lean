import TriviaStore.Migration.Options

/-! # Targets

What migrations run on: the address of a database and the directory of the migration scripts. Both
are handed over as options, and the run reads them back from there. A run whose options hold no
address takes one from the settings.
-/

namespace TriviaStore.Migration

/-- A database and the place of the scripts, which counts from the project's root unless it is
absolute. -/
structure Target where
  address : String
  location : String := "alembic"
  deriving DecidableEq, Repr

/-- The names of a path, without empty ones and references to the same place. -/
def pathNames (path : String) : List String :=
  ((path.toList.splitOn '/').map String.ofList).filter fun n => n != "" && n != "."

/-- The slashes that an absolute path begins with. Two of them are kept, more are one. -/
def leadingSlashes (path : String) : String :=
  if path.startsWith "//" && !path.startsWith "///" then "//" else "/"

/-- The directory at a place below a root. -/
def directory (root place : String) : String :=
  if place.startsWith "/" then leadingSlashes place ++ "/".intercalate (pathNames place)
  else "/".intercalate (root :: pathNames place)

namespace Options

/-- The name of the option that holds the directory of the scripts. -/
def scripts : String := "script_location"

/-- The name of the option that holds the address. -/
def databaseAddress : String := "sqlalchemy.url"

/-- The options before anything is written. -/
def initial : Options := [("here", "")]

/-- The options with an address among them: the fallback is written into them where they hold none
or an empty one. -/
def addressed (fallback : String) (o : Options) : Except OptionError Options := do
  let own ← o.read databaseAddress
  if own.getD "" = "" then o.write databaseAddress fallback else pure o

/-- The address that a script is written for. -/
def address (fallback : String) (o : Options) : Except OptionError String := do
  let o ← o.addressed fallback
  let a ← o.read databaseAddress
  pure (a.getD "")

/-- The address that an engine is made for. All the options are read for it. -/
def engineAddress (fallback : String) (o : Options) : Except OptionError String := do
  let o ← o.addressed fallback
  let all ← o.readAll
  pure ((all.get? databaseAddress).getD "")

end Options

/-- The options for a target. The address is written so that it is read as it is. -/
def Target.options (root : String) (t : Target) : Except OptionError Options := do
  let o ← Options.initial.write Options.scripts (directory root t.location)
  o.write Options.databaseAddress (Options.doubled t.address)

end TriviaStore.Migration
