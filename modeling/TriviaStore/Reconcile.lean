import TriviaStore.Attempt
import TriviaStore.Ids
import TriviaStore.Log.Event

/-! # Reconciliation

The rows stored under a parent are made to match a desired list of children. Children without an
id are created, the others are updated by id, and what was stored under the parent and is not
desired is deleted. The tables themselves are a parameter; `Reconciler.reconcile` is the same for
all of them.
-/

namespace TriviaStore

/-- What reconciliation needs of a table of children `C` in a state `σ`. -/
structure Reconciler (σ C : Type) where
  kind : String
  parentKind : String
  notUpdated : Miss
  notDeleted : Miss
  /-- A child's id, 0 if it has none yet. -/
  id : C → Int
  /-- The parent that a child points at. -/
  parent : C → Int
  /-- The child pointed at a parent. -/
  attach : Int → C → C
  existing : Int → Attempt σ (List Int)
  /-- Make ready a child that is about to be created. -/
  reset : Attempt (C × σ) Unit
  /-- Insert the child and give it its id. -/
  create : Attempt (C × σ) Unit
  /-- Update the child's row, under the given parent only if there is one, and count the rows. -/
  update : Option Int → Attempt (C × σ) Nat
  /-- Delete a row and count the rows. -/
  delete : Int → Attempt σ Nat
  /-- Go on below a child that has been created or updated. -/
  descend : Attempt (C × σ) Unit
  note : Event → σ → σ

namespace Reconciler

variable {σ C : Type} (t : Reconciler σ C)

/-- Create the child if it has no id, and otherwise update it, under the given parent only if there
is one; then go on below it. -/
def upsert (parent : Option Int) : Attempt (C × σ) Unit := do
  let (child, _) ← .read
  if t.id child = 0 then
    t.reset
    t.create.wrapping fun (c, _) => s!"failed to create {t.kind} under {t.parentKind} {t.parent c}"
    .update fun (c, s) => (c, t.note (.childCreated t.kind (t.id c)) s)
  else
    let rows ← (t.update parent).wrapping fun (c, _) =>
      s!"failed to update {t.kind} {t.id c} under {t.parentKind} {t.parent c}"
    if rows = 0 then .fail (.store (.missed t.notUpdated (t.id child)))
    .update fun (c, s) => (c, t.note (.childUpdated t.kind (t.id c)) s)
  t.descend.inContext fun (c, _) => s!"error upserting {t.kind} {t.id c}"

/-- Point the child at the parent and upsert it there. -/
def place (parent : Int) : Attempt (C × σ) Unit := do
  .update fun (c, s) => (t.attach parent c, s)
  t.upsert (some parent)

/-- Delete one row that is not desired any more. -/
def discard (parent id : Int) : Attempt σ Unit := do
  let rows ← (t.delete id).wrapping fun _ =>
    s!"failed to delete {t.kind} {id} under {t.parentKind} {parent}"
  if rows = 0 then .fail (.store (.missed t.notDeleted id))
  .update (t.note (.childDeleted t.kind id))

/-- The ids that a desired list lays claim to. -/
def kept (children : List C) : List Int := (children.map t.id).filter (· ≠ 0)

/-- Make the rows under a parent match the desired children, and give the ids that were deleted. -/
def reconcile (parent : Int) : Attempt (List C × σ) (List Int) := do
  let existing ← (Attempt.onSecond (t.existing parent)).wrapping fun _ =>
    s!"failed to list existing {t.kind} ids for {t.parentKind} {parent}"
  let (desired, _) ← .read
  Attempt.each (t.place parent)
  let stale := staleIds existing (t.kept desired)
  Attempt.onSecond (Attempt.forAll (t.discard parent) stale)
  pure stale

end Reconciler

end TriviaStore
