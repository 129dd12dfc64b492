import TriviaStore.Proofs.Attempt.Meets
import TriviaStore.Proofs.Reconcile.Origin

/-! # Contracts of reconciliations

If the calls of a table fail with raw failures only, a reconciliation of it fails with failures that can
be told: those of its own calls have been wrapped, those from below have been given context, and a row
that is missing has been reported.
-/

namespace TriviaStore.Reconciler

open Attempt

variable {σ C : Type} {t : Reconciler σ C} {I : σ → Prop} {J K : C → Prop} {good : Int → Prop}
  {raw told : Failure → Prop}

/-- The calls of a table keep a property of the state and, of the children, `K`, and `J` of those that
are about to be created; they are made with good ids only, and fail with raw failures. -/
structure Meets (t : Reconciler σ C) (I : σ → Prop) (J K : C → Prop) (good : Int → Prop)
    (raw told : Failure → Prop) : Prop where
  id : ∀ {c}, K c → good (t.id c)
  weaken : ∀ {c}, J c → K c
  attach : ∀ {p c}, good p → K c → J (t.attach p c)
  existing : ∀ {p}, good p → (t.existing p).Meets I (fun ids s => (∀ i ∈ ids, good i) ∧ I s) raw
  reset : t.reset.Meets (Both J I) (fun _ => Both J I) told
  create : t.create.Meets (Both J I) (fun _ => Both K I) raw
  update : ∀ {parent}, (∀ p ∈ parent, good p) →
    (t.update parent).Meets (Both K I) (fun _ => Both K I) raw
  delete : ∀ {i}, good i → (t.delete i).Meets I (fun _ => I) raw
  descend : t.descend.Meets (Both K I) (fun _ => Both K I) told
  note : ∀ {e s}, I s → I (t.note e s)
  wrapped : ∀ f m, raw f → told (f.wrappedIn m)
  under : ∀ f m, told f → told (f.under m)
  missed : ∀ w i, told (.store (.missed w i))

theorem Meets.upsert (h : t.Meets I J K good raw told) {parent : Option Int}
    (hp : ∀ p ∈ parent, good p) : (t.upsert parent).Meets
      (fun x => K x.1 ∧ (t.id x.1 = 0 → J x.1) ∧ I x.2) (fun _ => Both K I) told := by
  have hn (event : C → Event) : (Attempt.update fun p : C × σ => (p.1, t.note (event p.1) p.2)).Meets
      (Both K I) (fun _ => Both K I) told := meets_update fun _ hs => ⟨hs.1, h.note hs.2⟩
  have hd (m : C × σ → String) : (t.descend.inContext m).Meets (Both K I) (fun _ => Both K I) told :=
    h.descend.inContext h.under
  refine Meets.read_bind fun ⟨c, s⟩ ⟨hK, hJ, hI⟩ => ?_
  dsimp only
  split
  · rename_i new
    refine Attempt.Meets.mono (P := Both J I) ?_ (by rintro _ rfl; exact ⟨hJ new, hI⟩)
      (fun _ _ h => h) fun _ h => h
    refine h.reset.bind fun _ => (h.create.wrapping h.wrapped).bind fun _ => ?_
    exact (hn fun c => .childCreated t.kind (t.id c)).bind fun _ => hd _
  · refine Attempt.Meets.mono (P := Both K I) ?_ (by rintro _ rfl; exact ⟨hK, hI⟩)
      (fun _ _ h => h) fun _ h => h
    refine ((h.update hp).wrapping h.wrapped).bind fun rows => ?_
    split
    · exact Attempt.Meets.bind (R := fun _ => Both K I) (meets_fail (h.missed _ _)) fun _ =>
        (hn fun c => .childUpdated t.kind (t.id c)).bind fun _ => hd _
    · exact (hn fun c => .childUpdated t.kind (t.id c)).bind fun _ => hd _

theorem Meets.place (h : t.Meets I J K good raw told) {p : Int} (hp : good p) :
    (t.place p).Meets (Both K I) (fun _ => Both K I) told := by
  refine Attempt.Meets.bind (meets_update fun x hx => ?_) fun _ => h.upsert ?_
  · have hJ := h.attach hp hx.1
    exact ⟨h.weaken hJ, fun _ => hJ, hx.2⟩
  · rintro _ ⟨⟩
    exact hp

theorem Meets.discard (h : t.Meets I J K good raw told) (p : Int) {i : Int} (hi : good i) :
    (t.discard p i).Meets I (fun _ => I) told := by
  refine ((h.delete hi).wrapping h.wrapped).bind fun rows => ?_
  have hn : (Attempt.update (t.note (.childDeleted t.kind i))).Meets I (fun _ => I) told :=
    meets_update fun _ hs => h.note hs
  split
  · exact Attempt.Meets.bind (R := fun _ => I) (meets_fail (h.missed _ _)) fun _ => hn
  · exact hn

/-- A reconciliation of good children under a good parent makes its calls with good ids only. -/
theorem Meets.reconcile (h : t.Meets I J K good raw told) {p : Int} (hp : good p) :
    (t.reconcile p).Meets (Both (fun cs => ∀ c ∈ cs, K c) I)
      (fun _ => Both (fun cs => ∀ c ∈ cs, K c) I) told := by
  refine Attempt.Meets.bind (((h.existing hp).onSecond).wrapping h.wrapped) fun existing => ?_
  refine Meets.read_bind fun ⟨cs, s⟩ ⟨hcs, hids, hI⟩ => ?_
  refine Attempt.Meets.mono (P := Both (fun cs => ∀ c ∈ cs, K c) I) ?_
    (by rintro _ rfl; exact ⟨hcs, hI⟩) (fun _ _ h => h) fun _ h => h
  refine (h.place hp).each.bind fun _ => ?_
  refine Attempt.Meets.bind (R := fun _ => Both (fun cs => ∀ c ∈ cs, K c) I)
    (Attempt.Meets.onSecond (Attempt.Meets.forAll fun i hi => ?_)) fun _ => meets_pure _ fun _ hs => hs
  exact h.discard p (hids i (mem_staleIds.mp hi).1)

end TriviaStore.Reconciler
