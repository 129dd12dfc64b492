import TriviaStore.Proofs.Reconcile.Keeps
import TriviaStore.Proofs.Transaction.Shield

/-! # What attempts leave as it is

An attempt on an entity fixes a part of it if that part is the same afterwards, whether the attempt
succeeds or fails. Reconciliation fixes what the operations on single children fix, and a
transaction fixes what its work fixes.
-/

namespace TriviaStore

open Attempt

variable {σ τ α β A : Type}

/-- Whatever the outcome, the part of the entity is the same. -/
def Attempt.Fixes (f : τ → A) (a : Attempt (τ × σ) α) : Prop :=
  ∀ x, a.Keeps fun p => f p.1 = x

namespace Attempt

variable {f : τ → A} {a : Attempt (τ × σ) α}

theorem Fixes.run (h : a.Fixes f) (t : τ) (s : σ) : f (a (t, s)).2.1 = f t := h (f t) (t, s) rfl

theorem Fixes.eq (h : a.Fixes f) {t t' : τ} {s s' : σ} {r : Except Failure α}
    (ha : a (t, s) = (r, (t', s'))) : f t' = f t := by
  have hr := h.run t s
  rwa [ha] at hr

theorem fixes_of_run (h : ∀ t s, f (a (t, s)).2.1 = f t) : a.Fixes f := by
  rintro x ⟨t, s⟩ hp
  exact (h t s).trans hp

theorem fixes_pure (x : α) : (pure x : Attempt (τ × σ) α).Fixes f := fun _ => keeps_pure x

theorem fixes_fail (e : Failure) : (fail e : Attempt (τ × σ) α).Fixes f := fun _ => keeps_fail e

theorem fixes_read : (read : Attempt (τ × σ) (τ × σ)).Fixes f := fun _ => keeps_read

theorem fixes_update {g : τ × σ → τ × σ} (h : ∀ t s, f (g (t, s)).1 = f t) : (update g).Fixes f :=
  fixes_of_run h

theorem fixes_onSecond (a : Attempt σ α) : (a.onSecond : Attempt (τ × σ) α).Fixes f :=
  fixes_of_run fun _ _ => rfl

theorem Fixes.bind {g : α → Attempt (τ × σ) β} (ha : a.Fixes f) (hg : ∀ x, (g x).Fixes f) :
    (a >>= g).Fixes f := fun y => (ha y).bind fun x => hg x y

theorem Fixes.mapFailure {g : τ × σ → Failure → Failure} (ha : a.Fixes f) :
    (a.mapFailure g).Fixes f := fun y => (ha y).mapFailure

theorem Fixes.wrapping {m : τ × σ → String} (ha : a.Fixes f) : (a.wrapping m).Fixes f :=
  ha.mapFailure

theorem Fixes.inContext {m : τ × σ → String} (ha : a.Fixes f) : (a.inContext m).Fixes f :=
  ha.mapFailure

/-- Member by member. -/
theorem Fixes.each {a : Attempt (τ × σ) Unit} (ha : a.Fixes f) : (each a).Fixes (List.map f) := by
  refine fixes_of_run fun ts s => ?_
  show (eachOf a ts s).2.1.map f = ts.map f
  induction ts generalizing s with
  | nil => rfl
  | cons t ts ih =>
    have ht := ha.run t s
    rcases h : a (t, s) with ⟨e | _, u, s₁⟩ <;> rw [h] at ht
    · rw [eachOf_cons_of_error h]
      simp only [List.map_cons, ht]
    · rw [eachOf_cons_of_ok h]
      simp only [List.map_cons, ht, ih]

end Attempt

theorem SessionCalls.shields_first (calls : SessionCalls σ) (f : τ → A) (x : A) :
    (calls.alongside (τ := τ)).Shields fun p => f p.1 = x where
  acquire := fixes_onSecond calls.acquire x
  begin := fixes_onSecond calls.begin x
  rollback := fixes_onSecond calls.rollback x
  close := fixes_onSecond calls.close x
  note _ _ hp := hp
  commit_error p e p' hp hc := by
    have h : f (calls.alongside.commit p).2.1 = x := fixes_onSecond calls.commit x p hp
    rwa [hc] at h

theorem SessionCalls.fixes_transaction {calls : SessionCalls σ} {f : τ → A}
    {work : Attempt (τ × σ) α} (hw : work.Fixes f) : (calls.alongside.transaction work).Fixes f :=
  fun x => (calls.shields_first f x).transaction (hw x) (fixes_onSecond calls.commit x)

namespace Reconciler

variable {C : Type} {t : Reconciler σ C} {f : C → A}

/-- Every operation on a single child fixes a part of it. -/
structure Fixes (t : Reconciler σ C) (f : C → A) : Prop where
  attach : ∀ p c, f (t.attach p c) = f c
  reset : t.reset.Fixes f
  create : t.create.Fixes f
  update : ∀ parent, (t.update parent).Fixes f
  descend : t.descend.Fixes f

theorem Fixes.upsert (h : t.Fixes f) (parent : Option Int) : (t.upsert parent).Fixes f := by
  have hn : ∀ g : C → Event, (Attempt.update fun p : C × σ => (p.1, t.note (g p.1) p.2)).Fixes f :=
    fun g => fixes_update fun _ _ => rfl
  refine fixes_read.bind fun ⟨child, s⟩ => ?_
  have hd : ∀ m, (t.descend.inContext m).Fixes f := fun m => h.descend.inContext
  dsimp only
  split
  · refine h.reset.bind fun _ => h.create.wrapping.bind fun _ => ?_
    exact (hn fun c => .childCreated t.kind (t.id c)).bind fun _ => hd _
  · refine (h.update parent).wrapping.bind fun rows => ?_
    split
    · exact (fixes_fail _).bind fun _ =>
        (hn fun c => .childUpdated t.kind (t.id c)).bind fun _ => hd _
    · exact (hn fun c => .childUpdated t.kind (t.id c)).bind fun _ => hd _

theorem Fixes.place (h : t.Fixes f) (parent : Int) : (t.place parent).Fixes f := by
  have ha : (Attempt.update fun p : C × σ => (t.attach parent p.1, p.2)).Fixes f :=
    fixes_update fun c _ => h.attach parent c
  exact ha.bind fun _ => h.upsert (some parent)

/-- A reconciliation fixes the part of every child. -/
theorem Fixes.reconcile (h : t.Fixes f) (parent : Int) :
    (t.reconcile parent).Fixes (List.map f) := by
  refine (fixes_onSecond _).wrapping.bind fun existing => ?_
  refine fixes_read.bind fun ⟨desired, s⟩ => (h.place parent).each.bind fun _ => ?_
  exact (fixes_onSecond _).bind fun _ => fixes_pure _

end Reconciler

end TriviaStore
