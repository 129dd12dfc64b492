import TriviaStore.Database.Engine
import TriviaStore.Migration.History
import TriviaStore.Migration.Options
import TriviaStore.Text.Word

/-! # Revisions

A revision is a point in the history, counted by the migrations applied to reach it: 0 is the
empty database. It is named by the identifier of the last migration, by any beginning of it, or by
`head` and `base`, and a name may be followed by a number of steps up or down. Steps without a
name count from where the database is. A step down from `base` comes to the head.
-/

namespace TriviaStore.Migration

open Text

/-- Why a migration cannot be carried out. -/
inductive Error
  | option (error : OptionError)
  | noScripts (directory : String)
  | rangeGiven
  | rangeMissing
  | rangeTooLong
  | unknownRevision (name : String)
  | stepsMissed (steps : String) (count : Nat)
  | walkedTooFar
  | ambiguousStart
  | notBelow (destination : String)
  | noRevision
  | unmarked
  | manyHeads
  | schema (error : Database.SchemaError)
  | engine (error : Database.EngineError)
  deriving DecidableEq, Repr

/-- The error in words. Where there is no revision to name there are none. -/
def Error.message : Error → String
  | .option e => e.message
  | .noScripts directory =>
    s!"Path doesn't exist: {directory}.  Please use the 'init' command to create a new " ++
      "scripts folder."
  | .rangeGiven => "Range revision not allowed"
  | .rangeMissing => "downgrade with --sql requires <fromrev>:<torev>"
  | .rangeTooLong => "too many values to unpack (expected 2)"
  | .unknownRevision name => s!"Can't locate revision identified by '{name}'"
  | .stepsMissed steps count => s!"Relative revision {steps} didn't produce {count} migrations"
  | .walkedTooFar => "Walked too far"
  | .ambiguousStart => "Ambiguous upgrade from multiple current revisions"
  | .notBelow destination =>
    s!"Destination {destination} is not a valid downgrade target from current head(s)"
  | .noRevision => ""
  | .unmarked => "Can't UPDATE because downrevision is ambiguous"
  | .manyHeads =>
    "Version table 'alembic_version' has more than one head present; " ++
      "please use get_current_heads()"
  | .schema e => e.message
  | .engine e => e.message

/-! ## Names -/

/-- The revision with a name. -/
def revisionNamed (h : History) (name : String) : Except Error Nat :=
  if name = "base" then .ok 0
  else if name = "head" ∨ name = "heads" then .ok h.length
  else if name = "" then .error .noRevision
  else if h.any (·.identifier == name) then .ok (h.findIdx (·.identifier == name) + 1)
  else
    let fits := fun (m : Migration) => 3 < m.identifier.length && m.identifier.startsWith name
    if h.countP fits = 1 then .ok (h.findIdx fits + 1) else .error (.unknownRevision name)

/-! ## Destinations -/

/-- Where a database is to be brought. -/
inductive Destination
  | named (name : String)
  /-- A number of steps, as it is written too, from a revision or from where the database is. -/
  | steps (start : Option String) (count : Int) (written : String)
  deriving DecidableEq, Repr

/-- The number that digits write. -/
def digitsValue (digits : List Char) : Nat :=
  digits.foldl (fun n c => 10 * n + (c.toNat - '0'.toNat)) 0

/-- Read a destination. What follows a number of steps does not count. -/
def Destination.read (s : String) : Destination :=
  let start := s.toList.takeWhile isWordChar
  match s.toList.drop start.length with
  | [] => .named s
  | sign :: rest =>
    let digits := rest.takeWhile Char.isDigit
    if (sign = '+' ∨ sign = '-') ∧ digits ≠ [] then
      let n : Int := digitsValue digits
      .steps (if start.isEmpty then none else some (String.ofList start))
        (if sign = '-' then -n else n) (String.ofList (sign :: digits))
    else .named s

/-! ## Walking -/

/-- The revision a number of steps above another. -/
def climb (h : History) (start count : Nat) : Option Nat :=
  if start + count ≤ h.length then some (start + count) else none

/-- The revision a number of steps below another. -/
def descend (h : History) (start count : Nat) : Option Nat :=
  let start := if start = 0 ∧ 0 < count then h.length + 1 else start
  if count ≤ start then some (start - count) else none

/-- The revision that an upgrade of a database with the given heads leads to. -/
def upgradeTarget (h : History) (heads : List String) : Destination → Except Error Nat
  | .named name => revisionNamed h name
  | .steps none count written => do
    if count ≤ 0 then .error (.stepsMissed s!"{count}" count.natAbs)
    else
      let start ← match heads with
        | [] => pure 0
        | [v] => revisionNamed h v
        | _ => .error .ambiguousStart
      match climb h start count.natAbs with
      | some r => pure r
      | none => .error (.stepsMissed written count.natAbs)
  | .steps (some name) count _ => do
    let start ← revisionNamed h name
    let walk := if 0 < count then climb h start count.natAbs else descend h start count.natAbs
    match walk with
    | some (r + 1) => pure (r + 1)
    | _ => .error .noRevision

/-- The revision that a downgrade of a database with the given heads leads to. -/
def downgradeTarget (h : History) (heads : List String) : Destination → Except Error Nat
  | .named name => revisionNamed h name
  | .steps none count written => do
    let missed : Except Error Nat := .error (.stepsMissed written count.natAbs)
    if 0 ≤ count then missed
    else
      match heads with
      | [] => missed
      | v :: _ =>
        match descend h (← revisionNamed h v) count.natAbs with
        | some r => pure r
        | none => missed
  | .steps (some name) count _ => do
    let start ← revisionNamed h name
    if 0 ≤ count then
      match climb h start count.natAbs with
      | some (r + 1) => pure (r + 1)
      | _ => .error .walkedTooFar
    else
      match descend h start count.natAbs with
      | some r => pure r
      | none => .error .walkedTooFar

/-- The revision of a database with the given heads. -/
def headsRevision (h : History) (heads : List String) : Except Error Nat := do
  let all ← heads.mapM (revisionNamed h)
  pure (all.foldl max 0)

/-! ## Steps -/

/-- Whether migrations are applied or taken back. -/
inductive Direction
  | up
  | down
  deriving DecidableEq, Repr

def Direction.verb : Direction → String
  | .up => "upgrade"
  | .down => "downgrade"

/-- One migration applied or taken back, with the identifier of the one before it. -/
structure Step where
  direction : Direction
  migration : Migration
  below : Option String
  deriving DecidableEq, Repr

/-- The identifier of the revision that a step starts from, empty for the empty database. -/
def Step.source (s : Step) : String :=
  match s.direction with
  | .up => s.below.getD ""
  | .down => s.migration.identifier

/-- The identifier of the revision that a step leads to. -/
def Step.target (s : Step) : String :=
  match s.direction with
  | .up => s.migration.identifier
  | .down => s.below.getD ""

def Step.definitions (s : Step) : List Database.Definition :=
  match s.direction with
  | .up => s.migration.upward
  | .down => s.migration.downward

/-- Every migration of a history with the identifier of the one before. -/
def successive (below : Option String) : History → List (Migration × Option String)
  | [] => []
  | m :: ms => (m, below) :: successive (some m.identifier) ms

/-- The migrations above one revision and up to another, with those below them. -/
def between (h : History) (low high : Nat) : List (Migration × Option String) :=
  ((successive none h).take high).drop low

/-- The steps that bring a database with the given heads to a destination. A downgrade needs one
that the database has passed. -/
def steps (direction : Direction) (h : History) (heads : List String) (destination : String) :
    Except Error (List Step) :=
  match direction with
  | .up => do
    let target ← upgradeTarget h heads (.read destination)
    let now ← headsRevision h heads
    pure ((between h now target).map fun (m, below) => ⟨.up, m, below⟩)
  | .down => do
    let target ← downgradeTarget h heads (.read destination)
    let now ← headsRevision h heads
    if now < target then .error (.notBelow destination)
    else pure ((between h target now).reverse.map fun (m, below) => ⟨.down, m, below⟩)

/-! ## Heads -/

/-- How the heads of a database change. -/
inductive Mark
  | add (identifier : String)
  | remove (identifier : String)
  | replace (old new : String)
  deriving DecidableEq, Repr

/-- How a step changes the heads. -/
def Step.mark (heads : List String) (s : Step) : Except Error Mark :=
  let identifier := s.migration.identifier
  match s.direction, s.below with
  | .up, none => .ok (.add identifier)
  | .up, some b => .ok (if heads.contains b then .replace b identifier else .add identifier)
  | .down, below =>
    if !heads.contains identifier then .error .unmarked
    else match below with
    | none => .ok (.remove identifier)
    | some b => .ok (.replace identifier b)

/-- The heads after a change. -/
def Mark.apply (heads : List String) : Mark → List String
  | .add identifier => heads ++ [identifier]
  | .remove identifier => heads.filter (· != identifier)
  | .replace old new => heads.map fun v => if v = old then new else v

end TriviaStore.Migration
