import TriviaStore.Proofs.Attempt.Keeps
import TriviaStore.Reconcile

/-! # What reconciliation keeps

A reconciliation keeps every property of the state behind the children that the operations on the
table keep, whether it succeeds or fails.
-/

namespace TriviaStore.Reconciler

open Attempt

variable {σ C : Type} {t : Reconciler σ C} {P : σ → Prop}

/-- Every operation on the table keeps the property. -/
structure Keeps (t : Reconciler σ C) (P : σ → Prop) : Prop where
  existing : ∀ parent, (t.existing parent).Keeps P
  reset : t.reset.Keeps (OnSecond P)
  create : t.create.Keeps (OnSecond P)
  update : ∀ parent, (t.update parent).Keeps (OnSecond P)
  delete : ∀ id, (t.delete id).Keeps P
  descend : t.descend.Keeps (OnSecond P)
  note : ∀ e s, P s → P (t.note e s)

theorem Keeps.upsert (h : t.Keeps P) (parent : Option Int) :
    (t.upsert parent).Keeps (OnSecond P) := by
  have hn : ∀ f : C → Event, (Attempt.update fun p : C × σ => (p.1, t.note (f p.1) p.2)).Keeps
      (OnSecond P) := fun f => keeps_update fun p hp => h.note _ _ hp
  refine keeps_read.bind fun ⟨child, s⟩ => ?_
  have hd : ∀ m, (t.descend.inContext m).Keeps (OnSecond P) := fun m => h.descend.inContext
  dsimp only
  split
  · refine h.reset.bind fun _ => h.create.wrapping.bind fun _ => ?_
    exact (hn fun c => .childCreated t.kind (t.id c)).bind fun _ => hd _
  · refine (h.update parent).wrapping.bind fun rows => ?_
    split
    · exact (keeps_fail _).bind fun _ =>
        (hn fun c => .childUpdated t.kind (t.id c)).bind fun _ => hd _
    · exact (hn fun c => .childUpdated t.kind (t.id c)).bind fun _ => hd _

theorem Keeps.place (h : t.Keeps P) (parent : Int) : (t.place parent).Keeps (OnSecond P) := by
  have ha : (Attempt.update fun p : C × σ => (t.attach parent p.1, p.2)).Keeps (OnSecond P) :=
    keeps_update fun _ hp => hp
  exact ha.bind fun _ => h.upsert parent

theorem Keeps.discard (h : t.Keeps P) (parent id : Int) : (t.discard parent id).Keeps P := by
  have hn : (Attempt.update (t.note (.childDeleted t.kind id))).Keeps P :=
    keeps_update fun s hs => h.note _ s hs
  refine (h.delete id).wrapping.bind fun rows => ?_
  split
  · exact (keeps_fail _).bind fun _ => hn
  · exact hn

theorem Keeps.reconcile (h : t.Keeps P) (parent : Int) :
    (t.reconcile parent).Keeps (OnSecond P) := by
  refine (h.existing parent).onSecond.wrapping.bind fun existing => ?_
  refine keeps_read.bind fun ⟨desired, s⟩ => (h.place parent).each.bind fun _ => ?_
  exact (Attempt.Keeps.forAll (h.discard parent) _).onSecond.bind fun _ => keeps_pure _

end TriviaStore.Reconciler
