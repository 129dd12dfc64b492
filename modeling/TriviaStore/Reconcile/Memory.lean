import TriviaStore.Plan
import TriviaStore.Quiz.Basic
import TriviaStore.Reconcile

/-! # Reconciliation in memory

A table of choices kept in memory: rows with a parent and a text, and a counter for new ids. It
records the calls made on it, and a plan may disturb them. There is no transaction, so what a failed
call did to the rows stays.
-/

namespace TriviaStore

structure MemoryRow where
  id : Int
  parent : Int
  text : Option String
  deriving DecidableEq, Repr

/-- Whether an update of a row with the given id, and under the given parent if any, means it. -/
def MemoryRow.isMeant (id : Int) (parent : Option Int) (r : MemoryRow) : Bool :=
  r.id == id && parent.all (· == r.parent)

/-- The calls that reconciliation makes on a table. -/
inductive TableCall
  | existing (parent : Int)
  | reset (id : Int)
  | create (text : Option String)
  | update (id : Int) (parent : Option Int)
  | delete (id : Int)
  | descend (id : Int)
  deriving DecidableEq, Repr

/-- A table in memory, with the calls made on it and the events reported. -/
structure Memory where
  rows : List MemoryRow
  nextId : Int
  calls : List TableCall
  events : List Event
  deriving DecidableEq, Repr

namespace Memory

def ofRows (rows : List MemoryRow) : Memory :=
  { rows, nextId := freshId (rows.map (·.id)), calls := [], events := [] }

/-- Make a call that the plan may let fail. -/
def call {α : Type} (plan : Plan TableCall) (c : TableCall) (act : Memory → α × Memory) :
    Attempt Memory α := fun m =>
  let m' := { m with calls := m.calls ++ [c] }
  match plan m.calls c with
  | some (.fail e) => (.error e, m')
  | _ => (.ok (act m').1, (act m').2)

/-- Make a call that counts rows, and that the plan may let fail or find none. -/
def write (plan : Plan TableCall) (c : TableCall) (act : Memory → Nat × Memory) :
    Attempt Memory Nat := fun m =>
  match plan m.calls c with
  | some .noMatch => (.ok 0, { m with calls := m.calls ++ [c] })
  | _ => call plan c act m

/-- Set the text of the rows meant, and count them. -/
def setText (id : Int) (parent : Option Int) (text : Option String) (m : Memory) : Nat × Memory :=
  (m.rows.countP (MemoryRow.isMeant id parent),
    { m with rows := m.rows.map fun r =>
        if MemoryRow.isMeant id parent r then { r with text } else r })

def remove (id : Int) (m : Memory) : Nat × Memory :=
  (m.rows.countP (·.id == id), { m with rows := m.rows.filter (·.id != id) })

def add (parent : Int) (text : Option String) (m : Memory) : Int × Memory :=
  (m.nextId, { m with rows := m.rows ++ [⟨m.nextId, parent, text⟩], nextId := m.nextId + 1 })

variable (plan : Plan TableCall)

def create : Attempt (Choice × Memory) Unit := fun (c, m) =>
  match call plan (.create c.text) (add c.questionId c.text) m with
  | (.ok id, m') => (.ok (), ({ c with id }, m'))
  | (.error e, m') => (.error e, (c, m'))

def update (parent : Option Int) : Attempt (Choice × Memory) Nat := fun (c, m) =>
  let (r, m') := write plan (.update c.id parent) (setText c.id parent c.text) m
  (r, (c, m'))

/-- How reconciliation names its errors when no table says better. -/
def plain : Reconciler Memory Choice where
  kind := "child"
  parentKind := "parent"
  notUpdated := .updatingRow
  notDeleted := .updatingRow
  id := (·.id)
  parent := (·.questionId)
  attach p c := { c with questionId := p }
  existing p := call plan (.existing p) fun m =>
    ((m.rows.filter (·.parent == p)).map (·.id), m)
  reset := fun (c, m) => (.ok (), (c, { m with calls := m.calls ++ [.reset c.id] }))
  create := create plan
  update := update plan
  delete id := write plan (.delete id) (remove id)
  descend := fun (c, m) =>
    let (r, m') := call plan (.descend c.id) (fun m => ((), m)) m
    (r, (c, m'))
  note e m := { m with events := m.events ++ [e] }

/-- The table in memory with the names and errors of choices. -/
def choices : Reconciler Memory Choice :=
  { plain plan with
    kind := "option", parentKind := "question"
    notUpdated := .updatingChoice, notDeleted := .deletingChoice }

/-- The rows in ascending order of their ids. -/
def sorted (m : Memory) : List MemoryRow := m.rows.mergeSort fun a b => a.id ≤ b.id

end Memory

end TriviaStore
