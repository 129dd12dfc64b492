import TriviaStore.Proofs.Reconcile.View

/-! # When reconciliations succeed

What placing a list of children takes is said of the list and the state together. If every child
that is placed leaves behind what the rest of the list takes, and what the whole list takes lets its
first child be placed, then reconciling the list succeeds: what is stale at the end is still stored
when it is discarded.
-/

namespace TriviaStore

open Attempt

variable {σ C Row : Type}

namespace Reconciler

variable {t : Reconciler σ C} {p : Int} {cs cs' : List C} {s s' : σ}

/-- Whatever succeeds leaves behind what the children still to be placed take. -/
structure Carries (t : Reconciler σ C) (p : Int) (Ready : List C → σ → Prop) : Prop where
  existing {cs : List C} {s s' : σ} {ids : List Int} :
    Ready cs s → t.existing p s = (.ok ids, s') → Ready cs s'
  place {c c' : C} {cs : List C} {s s' : σ} :
    Ready (c :: cs) s → t.place p (c, s) = (.ok (), (c', s')) → Ready cs s'
  discard {i : Int} {s s' : σ} : Ready [] s → t.discard p i s = (.ok (), s') → Ready [] s'

variable {Ready : List C → σ → Prop}

namespace Carries

theorem eachOf (h : t.Carries p Ready) (hs : Ready cs s)
    (hr : eachOf (t.place p) cs s = (.ok (), (cs', s'))) : Ready [] s' := by
  induction cs generalizing s cs' with
  | nil => cases hr; exact hs
  | cons c cs ih =>
    obtain ⟨c', s₁, cs₁, hc, hrest, rfl⟩ := eachOf_cons_eq_ok.mp hr
    exact ih (h.place hs hc) hrest

theorem forAll (h : t.Carries p Ready) {ids : List Int} (hs : Ready [] s)
    (hr : forAll (t.discard p) ids s = (.ok (), s')) : Ready [] s' := by
  induction ids generalizing s with
  | nil => cases hr; exact hs
  | cons i ids ih =>
    obtain ⟨s₁, hi, hrest⟩ := forAll_cons_eq_ok.mp hr
    exact ih (h.discard hs hi) hrest

theorem reconcile (h : t.Carries p Ready) {ids : List Int} (hs : Ready cs s)
    (hr : t.reconcile p (cs, s) = (.ok ids, (cs', s'))) : Ready [] s' := by
  obtain ⟨existing, s₁, s₂, he, hall, rfl, hd⟩ := reconcile_eq_ok.mp hr
  exact h.forAll (h.eachOf (h.existing hs he) hall) hd

end Carries

/-- Ids that differ and are all stored can be discarded, since discarding one leaves the others. -/
theorem View.forAll_ok (v : t.View Row) {Q : σ → Prop} (hinv : ∀ {s}, Q s → v.Inv s)
    (hkeep : ∀ {i s s'}, Q s → t.discard p i s = (.ok (), s') → Q s')
    (hok : ∀ {i r s}, Q s → v.rows s i = some r → ∃ s', t.discard p i s = (.ok (), s'))
    {ids : List Int} (hs : Q s) (hd : ids.Pairwise (· < ·))
    (hstored : ∀ i ∈ ids, ∃ r, v.rows s i = some r) :
    ∃ s', forAll (t.discard p) ids s = (.ok (), s') := by
  induction ids generalizing s with
  | nil => exact ⟨s, rfl⟩
  | cons i ids ih =>
    obtain ⟨hlt, hd⟩ := List.pairwise_cons.mp hd
    obtain ⟨r, hr⟩ := hstored i List.mem_cons_self
    obtain ⟨s₁, hi⟩ := hok hs hr
    have hrows := (v.discard (hinv hs) hi).2
    have hrest : ∀ j ∈ ids, ∃ r, v.rows s₁ j = some r := by
      intro j hj
      have hne : j ≠ i := Int.ne_of_gt (hlt j hj)
      rw [hrows j, if_neg hne]
      exact hstored j (List.mem_cons_of_mem _ hj)
    obtain ⟨s', hr⟩ := ih (hkeep hs hi) hd hrest
    exact ⟨s', forAll_cons_eq_ok.mpr ⟨s₁, hi, hr⟩⟩

/-- What is ready succeeds: reading what is stored, placing the first child, and discarding what is
stored. -/
structure View.Accepts (v : t.View Row) (p : Int) (Ready : List C → σ → Prop) : Prop
    extends t.Carries p Ready where
  inv {cs : List C} {s : σ} : Ready cs s → v.Inv s
  existing_ok {cs : List C} {s : σ} : Ready cs s → ∃ ids s', t.existing p s = (.ok ids, s')
  place_ok {c : C} {cs : List C} {s : σ} :
    Ready (c :: cs) s → ∃ c' s', t.place p (c, s) = (.ok (), (c', s'))
  discard_ok {i : Int} {r : Row} {s : σ} :
    Ready [] s → v.rows s i = some r → ∃ s', t.discard p i s = (.ok (), s')

namespace View.Accepts

variable {v : t.View Row}

theorem eachOf (h : v.Accepts p Ready) (hs : Ready cs s) :
    ∃ cs' s', eachOf (t.place p) cs s = (.ok (), (cs', s')) := by
  induction cs generalizing s with
  | nil => exact ⟨[], s, rfl⟩
  | cons c cs ih =>
    obtain ⟨c', s₁, hc⟩ := h.place_ok hs
    obtain ⟨cs', s', hr⟩ := ih (h.place hs hc)
    exact ⟨c' :: cs', s', eachOf_cons_eq_ok.mpr ⟨c', s₁, cs', hc, hr, rfl⟩⟩

theorem reconcile (h : v.Accepts p Ready) (hs : Ready cs s) :
    ∃ ids cs' s', t.reconcile p (cs, s) = (.ok ids, (cs', s')) := by
  obtain ⟨existing, s₁, he⟩ := h.existing_ok hs
  have hs₁ := h.existing hs he
  obtain ⟨hinv, hrows, hids⟩ := v.existing (h.inv hs) he
  obtain ⟨cs', s₂, hp⟩ := h.eachOf hs₁
  have hall := v.eachOf_place hinv hp
  rw [← hrows] at hids
  have hstored : ∀ i ∈ staleIds existing (t.kept cs), ∃ r, v.rows s₂ i = some r := by
    intro i hi
    obtain ⟨r, hr, -⟩ := hall.stored_of_stale hids hi
    exact ⟨r, hr⟩
  obtain ⟨s', hd⟩ := v.forAll_ok h.inv h.discard h.discard_ok (h.toCarries.eachOf hs₁ hp)
    (pairwise_staleIds _ _) hstored
  exact ⟨_, cs', s', reconcile_eq_ok.mpr ⟨existing, s₁, s₂, he, hp, rfl, hd⟩⟩

end View.Accepts

/-- What placing a child takes of it, a reconciliation that succeeds has found in every child. -/
theorem View.forall_of_reconcile {v : t.View Row} {ids : List Int} {P : C → Prop}
    (hP : ∀ {c s c' s'}, v.Inv s → t.place p (c, s) = (.ok (), (c', s')) → P c) (hs : v.Inv s)
    (h : t.reconcile p (cs, s) = (.ok ids, (cs', s'))) : ∀ c ∈ cs, P c := by
  intro c hc
  obtain ⟨k, c', hk, hk', _⟩ := exists_across (v.reconcile hs h).length hc
  exact v.reconcile_pairs (R := fun c _ => P c) hP hs h hk hk'

end Reconciler

end TriviaStore
