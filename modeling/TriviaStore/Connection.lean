import TriviaStore.Plan
import TriviaStore.Tables
import TriviaStore.Transaction

/-! # Connections

A connection to the store holds the committed tables and the tables as the open session sees them.
Statements act on the latter; only a commit changes the former. A plan may disturb any statement,
and the statements issued and the events reported are kept.
-/

namespace TriviaStore

/-- The tables by name. -/
inductive Table
  | quizzes
  | questions
  | choices
  deriving DecidableEq, Repr

/-- The statements that the store issues. -/
inductive Statement
  | ping
  | select (table : Table)
  | insert (table : Table)
  | update (table : Table)
  | delete (table : Table)
  | begin
  | commit
  | rollback
  deriving DecidableEq, Repr

structure Connection where
  committed : Tables
  working : Tables
  issued : List Statement
  events : List Event
  deriving DecidableEq, Repr

namespace Connection

/-- A fresh connection to a store. -/
def onto (tables : Tables) : Connection :=
  { committed := tables, working := tables, issued := [], events := [] }

def note (e : Event) (c : Connection) : Connection := { c with events := c.events ++ [e] }

/-- The session's tables as they were last committed. -/
def refresh (c : Connection) : Connection := { c with working := c.committed }

variable {α : Type} (plan : Plan Statement)

/-- Issue a statement, unless the plan lets it fail. -/
def issue (s : Statement) (act : Connection → Except Failure α × Connection) :
    Attempt Connection α := fun c =>
  let c' := { c with issued := c.issued ++ [s] }
  match plan c.issued s with
  | some (.fail e) => (.error e, c')
  | _ => act c'

/-- Read from the session's tables. -/
def query (table : Table) (read : Tables → Except Failure α) : Attempt Connection α :=
  issue plan (.select table) fun c => (read c.working, c)

/-- Change the session's tables and give a result, or change nothing. -/
def apply (change : Tables → Except Failure (α × Tables)) (c : Connection) :
    Except Failure α × Connection :=
  match change c.working with
  | .ok (a, working) => (.ok a, { c with working })
  | .error e => (.error e, c)

/-- Add a row and give its id. -/
def insert (table : Table) (change : Tables → Except Failure (Int × Tables)) :
    Attempt Connection Int :=
  issue plan (.insert table) (apply change)

/-- Issue a statement that counts the rows it matches; the plan may let it match none. -/
def write (s : Statement) (change : Tables → Except Failure (Nat × Tables)) :
    Attempt Connection Nat := fun c =>
  match plan c.issued s with
  | some .noMatch => (.ok 0, { c with issued := c.issued ++ [s] })
  | _ => issue plan s (apply change) c

def ping : Attempt Connection Unit := issue plan .ping fun c => (.ok (), c)

/-- The session of a transaction. Closing it discards what was not committed. -/
def session : SessionCalls Connection where
  acquire := .update refresh
  begin := issue plan .begin fun c => (.ok (), c)
  commit := issue plan .commit fun c => (.ok (), { c with committed := c.working })
  rollback := issue plan .rollback fun c => (.ok (), c.refresh)
  close := .update refresh
  note := note

/-- Read in a session of its own. -/
def reading (read : Attempt Connection α) : Attempt Connection α := fun c =>
  let (r, c') := read c.refresh
  (r, c'.refresh)

end Connection

end TriviaStore
