import TriviaStore.Proofs.Attempt.Retraced
import TriviaStore.Proofs.Reconcile.Success

/-! # Retracing reconciliations

If the calls on a table are retraced by those on another one, a reconciliation of the first that succeeds
is retraced by one of the second: the same ids are deleted, and the children are left alike. A write that
counts no row is not retraced, since no reconciliation goes on after it.
-/

namespace TriviaStore.Reconciler

open Attempt

variable {σ τ C : Type} {t : Reconciler σ C} {u : Reconciler τ C} {R : σ → τ → Prop} {p : Int}

/-- The calls on the first table are retraced by those on the second. -/
structure Retraced (t : Reconciler σ C) (u : Reconciler τ C) (R : σ → τ → Prop) : Prop where
  id : u.id = t.id
  attach : u.attach = t.attach
  existing : ∀ p, Attempt.Retraced R Anything (t.existing p) (u.existing p)
  reset : Attempt.Retraced (Beside R) Anything t.reset u.reset
  create : Attempt.Retraced (Beside R) Anything t.create u.create
  update : ∀ parent, Attempt.Retraced (Beside R) (· ≠ 0) (t.update parent) (u.update parent)
  delete : ∀ i, Attempt.Retraced R (· ≠ 0) (t.delete i) (u.delete i)
  descend : Attempt.Retraced (Beside R) Anything t.descend u.descend
  note : ∀ {e f s d}, R s d → R (t.note e s) (u.note f d)

namespace Retraced

theorem upsert (h : t.Retraced u R) (parent : Option Int) :
    Attempt.Retraced (Beside R) Anything (t.upsert parent) (u.upsert parent) := by
  rintro ⟨c, s⟩ ⟨_, d⟩ ⟨rfl, hR⟩ _ ⟨c', s'⟩ - hok
  have hR : R s d := hR
  rcases upsert_eq_ok.mp hok with ⟨hnew, ⟨c₁, s₁⟩, ⟨c₂, s₂⟩, hreset, hcreate, hdescend⟩ |
    ⟨hold, n, ⟨c₁, s₁⟩, hn, hupdate, hdescend⟩
  · obtain ⟨d₁, hreset, hR₁⟩ := h.reset.beside hR trivial hreset
    obtain ⟨d₂, hcreate, hR₂⟩ := h.create.beside hR₁ trivial hcreate
    obtain ⟨d', hdescend, hR'⟩ := h.descend.beside (h.note hR₂) trivial hdescend
    exact ⟨(c', d'), upsert_eq_ok.mpr (.inl ⟨by rwa [h.id], _, _, hreset, hcreate, hdescend⟩), rfl, hR'⟩
  · obtain ⟨d₁, hupdate, hR₁⟩ := (h.update parent).beside hR hn hupdate
    obtain ⟨d', hdescend, hR'⟩ := h.descend.beside (h.note hR₁) trivial hdescend
    exact ⟨(c', d'), upsert_eq_ok.mpr (.inr ⟨by rwa [h.id], n, _, hn, hupdate, hdescend⟩), rfl, hR'⟩

theorem place (h : t.Retraced u R) (p : Int) :
    Attempt.Retraced (Beside R) Anything (t.place p) (u.place p) := by
  rintro ⟨c, s⟩ ⟨_, d⟩ ⟨rfl, hR⟩ _ ⟨c', s'⟩ - hok
  have hR : R s d := hR
  obtain ⟨d', hupsert, hR'⟩ := (h.upsert (some p)).beside hR trivial (place_eq_ok.mp hok)
  exact ⟨(c', d'), place_eq_ok.mpr (by rwa [h.attach]), rfl, hR'⟩

theorem discard (h : t.Retraced u R) (p i : Int) :
    Attempt.Retraced R Anything (t.discard p i) (u.discard p i) := by
  rintro s d hR _ s' - hok
  obtain ⟨n, s₁, hn, hdelete, rfl⟩ := discard_eq_ok.mp hok
  obtain ⟨d₁, hdelete', hR₁⟩ := h.delete i s d hR n s₁ hn hdelete
  exact ⟨_, discard_eq_ok.mpr ⟨n, d₁, hn, hdelete', rfl⟩, h.note hR₁⟩

theorem reconcile (h : t.Retraced u R) (p : Int) :
    Attempt.Retraced (Beside R) Anything (t.reconcile p) (u.reconcile p) := by
  rintro ⟨cs, s⟩ ⟨_, d⟩ ⟨rfl, hR⟩ ids ⟨cs', s'⟩ - hok
  obtain ⟨existing, s₁, s₂, hexisting, hplace, rfl, hdiscard⟩ := reconcile_eq_ok.mp hok
  obtain ⟨d₁, hexisting', hR₁⟩ := h.existing p s d hR existing s₁ trivial hexisting
  obtain ⟨d₂, hplace', hR₂⟩ := (h.place p).eachOf hR₁ hplace
  obtain ⟨d', hdiscard', hR'⟩ := Attempt.Retraced.forAll (fun i => h.discard p i) hR₂ hdiscard
  have hkept : u.kept cs = t.kept cs := by
    unfold kept
    rw [h.id]
  exact ⟨(cs', d'), reconcile_eq_ok.mpr ⟨existing, d₁, d₂, hexisting', hplace', by rw [hkept],
    hdiscard'⟩, rfl, hR'⟩

end Retraced

end TriviaStore.Reconciler
