import TriviaStore.Proofs.Attempt.InStep
import TriviaStore.Reconcile

/-! # Reconciliations in step

Two tables of the same children are reconciled in step if their calls go in step. Every child that has
to be created uses up an id.
-/

namespace TriviaStore.Reconciler

open Attempt

variable {σ τ C : Type} {t : Reconciler σ C} {u : Reconciler τ C} {p : Int} {good : C → Prop}
  {stored : Int → Prop} {R : Nat → σ → τ → Prop} {E : σ → τ → Prop}

/-- The number of ids that a child uses up. -/
def cost (t : Reconciler σ C) (c : C) : Nat := if t.id c = 0 then 1 else 0

/-- The tables have the same names and errors, and their calls go in step: about good children, and from
states that are related with some ids left; whatever has failed, the states stay related in part. The
numbers of rows counted need not be the same as long as both are 0 or none is. -/
structure InStep (t : Reconciler σ C) (u : Reconciler τ C) (p : Int) (good : C → Prop)
    (stored : Int → Prop) (R : Nat → σ → τ → Prop) (E : σ → τ → Prop) : Prop where
  kind : u.kind = t.kind
  parentKind : u.parentKind = t.parentKind
  notUpdated : u.notUpdated = t.notUpdated
  notDeleted : u.notDeleted = t.notDeleted
  id : u.id = t.id
  parent : u.parent = t.parent
  attach : u.attach = t.attach
  existing : ∀ {n}, Attempt.InStep (R n)
    (fun is js s s' => is = js ∧ (∀ i ∈ is, stored i) ∧ R n s s') E (t.existing p) (u.existing p)
  reset : ∀ {n c s s'}, good c → R n s s' →
    EndsInStep (fun _ _ x y => x.1 = c ∧ y.1 = c ∧ R n x.2 y.2) (Beside E) (t.reset (c, s))
      (u.reset (c, s'))
  create : ∀ {n c s s'}, good c → R (n + 1) s s' →
    EndsInStep (fun _ _ => Beside (R n)) (Beside E) (t.create (c, s)) (u.create (c, s'))
  update : ∀ {n c s s'}, good c → R n s s' →
    EndsInStep (fun i j x y => (i = 0 ↔ j = 0) ∧ Beside (R n) x y) (Beside E)
      (t.update (some p) (c, s)) (u.update (some p) (c, s'))
  delete : ∀ {i}, stored i → Attempt.InStep E (fun i j s s' => (i = 0 ↔ j = 0) ∧ E s s') E
    (t.delete i) (u.delete i)
  descend : ∀ {n}, Attempt.InStep (Beside (R n)) (fun _ _ => Beside (R n)) (Beside E) t.descend
    u.descend
  note : ∀ {e n s s'}, R n s s' → R n (t.note e s) (u.note e s')
  noteFailing : ∀ {e s s'}, E s s' → E (t.note e s) (u.note e s')
  weaken : ∀ {n s s'}, R n s s' → E s s'

theorem InStep.upsert (h : t.InStep u p good stored R E) {c : C} (hc : good c) {n : Nat} {s : σ}
    {s' : τ} (hR : R (t.cost c + n) s s') :
    EndsInStep (fun _ _ => Beside (R n)) (Beside E) (t.upsert (some p) (c, s))
      (u.upsert (some p) (c, s')) := by
  have hnote (event : C → Event) : Attempt.InStep (Beside (R n)) (fun _ _ => Beside (R n)) (Beside E)
      (Attempt.update fun x : C × σ => (x.1, t.note (event x.1) x.2))
      (Attempt.update fun y : C × τ => (y.1, u.note (event y.1) y.2)) := by
    refine inStep_update ?_
    rintro ⟨d, s⟩ ⟨_, s'⟩ ⟨rfl, hR⟩
    exact ⟨rfl, h.note hR⟩
  have hdescend : Attempt.InStep (Beside (R n)) (fun _ _ => Beside (R n)) (Beside E)
      (t.descend.inContext fun x => s!"error upserting {t.kind} {t.id x.1}")
      (u.descend.inContext fun y => s!"error upserting {t.kind} {t.id y.1}") := by
    intro x y hxy
    refine (h.descend x y hxy).inContext ?_
    rintro ⟨d, s⟩ ⟨_, s'⟩ ⟨rfl, -⟩
    rfl
  unfold Reconciler.upsert
  rw [bind_of_ok (read_run _), bind_of_ok (read_run _)]
  simp only [h.kind, h.parentKind, h.notUpdated, h.id, h.parent]
  by_cases new : t.id c = 0
  · have hcost : t.cost c + n = n + 1 := by
      rw [cost, if_pos new]
      omega
    rw [if_pos new, if_pos new]
    refine (h.reset hc (hcost ▸ hR)).bind fun _ _ => ?_
    rintro ⟨_, s₁⟩ ⟨_, s₁'⟩ ⟨rfl, rfl, hR₁⟩
    refine ((h.create hc hR₁).wrapping ?_).bind fun _ _ => ?_
    · rintro ⟨d, s⟩ ⟨_, s'⟩ ⟨rfl, -⟩
      rfl
    · exact (hnote fun d => .childCreated t.kind (t.id d)).bind fun _ _ => hdescend
  · have hcost : t.cost c + n = n := by
      rw [cost, if_neg new, Nat.zero_add]
    rw [if_neg new, if_neg new]
    refine ((h.update hc (hcost ▸ hR)).wrapping ?_).bind fun i j => ?_
    · rintro ⟨d, s⟩ ⟨_, s'⟩ ⟨rfl, -⟩
      rfl
    rintro x y ⟨hij, hxy⟩
    by_cases hi : i = 0
    · rw [if_pos hi, if_pos (hij.mp hi)]
      exact .error ⟨hxy.1, h.weaken hxy.2⟩
    · rw [if_neg hi, if_neg fun hj => hi (hij.mpr hj)]
      exact ((hnote fun d => .childUpdated t.kind (t.id d)).bind fun _ _ => hdescend) x y hxy

theorem InStep.place (h : t.InStep u p good stored R E) {c : C} (hc : good (t.attach p c))
    (hid : t.id (t.attach p c) = t.id c) {n : Nat} {s : σ} {s' : τ} (hR : R (t.cost c + n) s s') :
    EndsInStep (fun _ _ => Beside (R n)) (Beside E) (t.place p (c, s)) (u.place p (c, s')) := by
  unfold Reconciler.place
  rw [bind_of_ok (update_run _ _), bind_of_ok (update_run _ _)]
  simp only [h.attach]
  refine h.upsert hc ?_
  rwa [cost, hid, ← cost]

theorem InStep.discard (h : t.InStep u p good stored R E) {i : Int} (hi : stored i) :
    Attempt.InStep E (fun _ _ => E) E (t.discard p i) (u.discard p i) := by
  intro s s' hE
  unfold Reconciler.discard
  simp only [h.kind, h.parentKind, h.notDeleted]
  refine ((h.delete hi s s' hE).wrapping fun _ _ _ => rfl).bind fun i j => ?_
  rintro s s' ⟨hij, hE⟩
  by_cases hi : i = 0
  · rw [if_pos hi, if_pos (hij.mp hi)]
    exact .error hE
  · rw [if_neg hi, if_neg fun hj => hi (hij.mpr hj)]
    exact .ok (h.noteFailing hE)

/-- Tables whose calls go in step are reconciled in step. -/
theorem InStep.reconcile (h : t.InStep u p good stored R E) {cs : List C}
    (hcs : ∀ c ∈ cs, good (t.attach p c) ∧ t.id (t.attach p c) = t.id c) {s : σ} {s' : τ}
    (hR : R (cs.foldr (fun c m => t.cost c + m) 0) s s') :
    EndsInStep (fun is js x y => is = js ∧ Beside E x y) (Beside E) (t.reconcile p (cs, s))
      (u.reconcile p (cs, s')) := by
  unfold Reconciler.reconcile
  simp only [h.kind, h.parentKind]
  refine (((h.existing s s' hR).onSecond).wrapping fun _ _ _ => rfl).bind ?_
  intro is js
  rintro ⟨ds, s₁⟩ ⟨ds', s₁'⟩ ⟨hds, hds', rfl, his, hR₁⟩
  obtain rfl : cs = ds := hds.symm
  obtain rfl : cs = ds' := hds'.symm
  rw [bind_of_ok (read_run _), bind_of_ok (read_run _)]
  have hplaced : EndsInStep (fun _ _ => Beside (R 0)) (Beside E)
      (Attempt.each (t.place p) (cs, s₁)) (Attempt.each (u.place p) (cs, s₁')) := by
    refine inStep_eachOf (fun c hc n s s' hR => ?_) hR₁
    exact h.place (hcs c hc).1 (hcs c hc).2 hR
  have hkept : u.kept = t.kept := by
    funext ds
    rw [kept, kept, h.id]
  refine hplaced.bind fun _ _ => ?_
  rintro ⟨ds, s₂⟩ ⟨_, s₂'⟩ ⟨rfl, hR₂⟩
  dsimp only
  rw [hkept]
  have hstale : ∀ i ∈ staleIds is (t.kept cs), stored i := fun i hi => his i (mem_staleIds.mp hi).1
  have hdiscarded := Attempt.InStep.forAll (fun i hi => h.discard (hstale i hi)) s₂ s₂' (h.weaken hR₂)
  refine hdiscarded.onSecond.bind fun _ _ => ?_
  rintro x y ⟨hx, hy, hE⟩
  exact .ok ⟨rfl, hx.trans hy.symm, hE⟩

end TriviaStore.Reconciler
