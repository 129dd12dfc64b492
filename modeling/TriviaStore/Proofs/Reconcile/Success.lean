import TriviaStore.Proofs.Attempt.Outcome
import TriviaStore.Reconcile

/-! # How reconciliations succeed

A reconciliation that succeeds has read the ids stored under the parent, placed the children one
after the other, and discarded in ascending order what was stored and not kept.
-/

namespace TriviaStore

theorem pairwise_staleIds (existing kept : List Int) :
    (staleIds existing kept).Pairwise (· < ·) := pairwise_ascending _

theorem staleIds_eq_nil {existing kept : List Int} (h : ∀ i ∈ existing, i ∈ kept) :
    staleIds existing kept = [] := by
  refine List.eq_nil_iff_forall_not_mem.mpr fun i hi => ?_
  obtain ⟨he, hk⟩ := mem_staleIds.mp hi
  exact hk (h i he)

namespace Reconciler

open Attempt

variable {σ C : Type} {t : Reconciler σ C} {parent : Option Int} {p i : Int}

/-- A child without an id is made ready and created, another one is updated; then follows what is
below it. -/
theorem upsert_eq_ok {c : C} {s : σ} {x : C × σ} :
    t.upsert parent (c, s) = (.ok (), x) ↔
      (t.id c = 0 ∧ ∃ y z, t.reset (c, s) = (.ok (), y) ∧ t.create y = (.ok (), z) ∧
        t.descend (z.1, t.note (.childCreated t.kind (t.id z.1)) z.2) = (.ok (), x)) ∨
      (t.id c ≠ 0 ∧ ∃ n z, n ≠ 0 ∧ t.update parent (c, s) = (.ok n, z) ∧
        t.descend (z.1, t.note (.childUpdated t.kind (t.id z.1)) z.2) = (.ok (), x)) := by
  unfold Reconciler.upsert
  rw [bind_of_ok (read_run _)]
  by_cases h : t.id c = 0
  · simp only [h, if_true, true_and, ne_eq, not_true_eq_false, false_and, or_false]
    simp only [bind_eq_ok, wrapping_eq_ok, inContext_eq_ok, update_run]
    constructor
    · rintro ⟨_, y, hr, _, z, hc, _, _, hu, hd⟩
      cases hu
      exact ⟨y, z, hr, hc, hd⟩
    · rintro ⟨y, z, hr, hc, hd⟩
      exact ⟨(), y, hr, (), z, hc, (), _, rfl, hd⟩
  · simp only [h, if_false, false_and, false_or, ne_eq, not_false_eq_true, true_and]
    simp only [bind_eq_ok, wrapping_eq_ok]
    constructor
    · rintro ⟨n, z, hu, hd⟩
      split at hd
      · obtain ⟨_, _, hf, _⟩ := bind_eq_ok.mp hd
        cases hf
      · obtain ⟨_, _, hn, hd⟩ := bind_eq_ok.mp hd
        cases hn
        exact ⟨n, z, ‹_›, hu, inContext_eq_ok.mp hd⟩
    · rintro ⟨n, z, hn, hu, hd⟩
      refine ⟨n, z, hu, ?_⟩
      rw [if_neg hn]
      exact bind_eq_ok.mpr ⟨(), _, rfl, inContext_eq_ok.mpr hd⟩

/-- A child without an id is created wherever it points. -/
theorem upsert_of_new {parent' : Option Int} {c : C} {s : σ} (h : t.id c = 0) :
    t.upsert parent (c, s) = t.upsert parent' (c, s) := by
  unfold Reconciler.upsert
  rw [bind_of_ok (read_run _), bind_of_ok (read_run _)]
  dsimp only
  rw [if_pos h, if_pos h]

theorem place_eq_ok {c : C} {s : σ} {x : C × σ} :
    t.place p (c, s) = (.ok (), x) ↔ t.upsert (some p) (t.attach p c, s) = (.ok (), x) := by
  unfold Reconciler.place
  rw [bind_of_ok (update_run _ _)]

theorem discard_eq_ok {s s' : σ} :
    t.discard p i s = (.ok (), s') ↔ ∃ n s₁, n ≠ 0 ∧ t.delete i s = (.ok n, s₁) ∧
      s' = t.note (.childDeleted t.kind i) s₁ := by
  unfold Reconciler.discard
  simp only [bind_eq_ok, wrapping_eq_ok]
  constructor
  · rintro ⟨n, s₁, hd, h⟩
    split at h
    · obtain ⟨_, _, hf, _⟩ := bind_eq_ok.mp h
      cases hf
    · cases h
      exact ⟨n, s₁, ‹_›, hd, rfl⟩
  · rintro ⟨n, s₁, hn, hd, rfl⟩
    refine ⟨n, s₁, hd, ?_⟩
    rw [if_neg hn]
    rfl

theorem mem_kept {cs : List C} : i ∈ t.kept cs ↔ i ≠ 0 ∧ ∃ c ∈ cs, t.id c = i := by
  unfold kept
  rw [List.mem_filter, List.mem_map, decide_eq_true_iff, and_comm]

theorem reconcile_eq_ok {cs cs' : List C} {s s' : σ} {ids : List Int} :
    t.reconcile p (cs, s) = (.ok ids, (cs', s')) ↔ ∃ existing s₁ s₂,
      t.existing p s = (.ok existing, s₁) ∧ eachOf (t.place p) cs s₁ = (.ok (), (cs', s₂)) ∧
      ids = staleIds existing (t.kept cs) ∧ forAll (t.discard p) ids s₂ = (.ok (), s') := by
  unfold Reconciler.reconcile
  simp only [bind_eq_ok, wrapping_eq_ok]
  constructor
  · rintro ⟨existing, ⟨_, s₁⟩, he, ⟨_, _⟩, _, hr, _, ⟨_, s₂⟩, hp, _, ⟨_, _⟩, hd, h⟩
    obtain ⟨he', rfl⟩ := onSecond_eq_ok.mp he
    cases hr
    obtain ⟨hd', rfl⟩ := onSecond_eq_ok.mp hd
    cases h
    exact ⟨existing, s₁, s₂, he', hp, rfl, hd'⟩
  · rintro ⟨existing, s₁, s₂, he, hp, rfl, hd⟩
    exact ⟨existing, _, onSecond_eq_ok.mpr ⟨he, rfl⟩, _, _, rfl, (), _, hp, (), _,
      onSecond_eq_ok.mpr ⟨hd, rfl⟩, rfl⟩

/-- If all that is stored under the parent is kept, reconciling the children is placing them. -/
theorem eachOf_of_reconcile {cs cs' : List C} {s s' : σ} {ids : List Int}
    (hkept : ∀ existing s₁, t.existing p s = (.ok existing, s₁) → ∀ i ∈ existing, i ∈ t.kept cs)
    (h : t.reconcile p (cs, s) = (.ok ids, (cs', s'))) :
    ∃ existing s₁, t.existing p s = (.ok existing, s₁) ∧
      eachOf (t.place p) cs s₁ = (.ok (), (cs', s')) := by
  obtain ⟨existing, s₁, s₂, hexisting, hplace, rfl, hdiscard⟩ := reconcile_eq_ok.mp h
  rw [staleIds_eq_nil (hkept existing s₁ hexisting)] at hdiscard
  cases hdiscard
  exact ⟨existing, s₁, hexisting, hplace⟩

end Reconciler

end TriviaStore
