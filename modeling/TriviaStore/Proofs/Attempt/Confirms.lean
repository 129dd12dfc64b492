import TriviaStore.Proofs.Reconcile.Success
import TriviaStore.Proofs.Transaction.Shield

/-! # What attempts give for certain

An attempt gives a result from the states with a property if it succeeds with that result from every
one of them and ends in another. An attempt on an entity that gives its result and has the same entity
before and after confirms the entity; a reconciliation confirms a list if placing confirms every
member and nothing is stale.
-/

namespace TriviaStore

open Attempt

variable {σ τ α β C : Type}

/-- From every state with the property, the attempt succeeds with the result and keeps the property. -/
def Attempt.Gives (P : σ → Prop) (a : Attempt σ α) (x : α) : Prop :=
  ∀ s, P s → ∃ s', a s = (.ok x, s') ∧ P s'

/-- From every state with the property, the attempt on an entity succeeds, leaves the entity as it is
and keeps the property. -/
def Attempt.Confirms (P : σ → Prop) (a : Attempt (τ × σ) α) (t : τ) (x : α) : Prop :=
  ∀ s, P s → ∃ s', a (t, s) = (.ok x, (t, s')) ∧ P s'

namespace Attempt

variable {P : σ → Prop} {a : Attempt σ α} {x : α} {y : β} {t : τ}

theorem confirms_pure (x : α) : (pure x : Attempt (τ × σ) α).Confirms P t x :=
  fun s hs => ⟨s, rfl, hs⟩

theorem Confirms.bind {a : Attempt (τ × σ) α} {f : α → Attempt (τ × σ) β} (ha : a.Confirms P t x)
    (hf : (f x).Confirms P t y) : (a >>= f).Confirms P t y := by
  intro s hs
  obtain ⟨s₁, ha, hs₁⟩ := ha s hs
  rw [bind_of_ok ha]
  exact hf s₁ hs₁

/-- What goes on in view of the state is certain for every state with the property. -/
theorem Confirms.read_bind {f : τ × σ → Attempt (τ × σ) α} (hf : ∀ s, (f (t, s)).Confirms P t x) :
    (read >>= f).Confirms P t x := fun s hs => hf s s hs

theorem Gives.onSecond (ha : a.Gives P x) : a.onSecond.Confirms P t x := by
  intro s hs
  obtain ⟨s', ha, hs'⟩ := ha s hs
  exact ⟨s', onSecond_eq_ok.mpr ⟨ha, rfl⟩, hs'⟩

theorem Confirms.inContext {a : Attempt (τ × σ) α} {m : τ × σ → String} (ha : a.Confirms P t x) :
    (a.inContext m).Confirms P t x := by
  intro s hs
  obtain ⟨s', ha, hs'⟩ := ha s hs
  exact ⟨s', inContext_eq_ok.mpr ha, hs'⟩

/-- Work on the members of a list confirms the list if it confirms every member. -/
theorem Confirms.eachOf {a : Attempt (τ × σ) Unit} {ts : List τ}
    (ha : ∀ t ∈ ts, a.Confirms P t ()) {s : σ} (hs : P s) :
    ∃ s', eachOf a ts s = (.ok (), (ts, s')) ∧ P s' := by
  induction ts generalizing s with
  | nil => exact ⟨s, rfl, hs⟩
  | cons t ts ih =>
    obtain ⟨s₁, ht, hs₁⟩ := ha t List.mem_cons_self s hs
    obtain ⟨s', hr, hs'⟩ := ih (fun u hu => ha u (List.mem_cons_of_mem _ hu)) hs₁
    exact ⟨s', eachOf_cons_eq_ok.mpr ⟨t, s₁, ts, ht, hr, rfl⟩, hs'⟩

end Attempt

/-! ## Reconciliation -/

namespace Reconciler

variable {t : Reconciler σ C} {P : σ → Prop} {parent : Option Int} {p : Int} {c : C}

/-- Upserting confirms a child whose update matches a row and confirms it. -/
theorem confirms_upsert {n : Nat} (hc : t.id c ≠ 0) (hn : n ≠ 0)
    (hu : (t.update parent).Confirms P c n) (hnote : ∀ e s, P s → P (t.note e s))
    (hd : t.descend.Confirms P c ()) : (t.upsert parent).Confirms P c () := by
  intro s hs
  obtain ⟨s₁, hu, hs₁⟩ := hu s hs
  obtain ⟨s', hd, hs'⟩ := hd _ (hnote (.childUpdated t.kind (t.id c)) s₁ hs₁)
  exact ⟨s', upsert_eq_ok.mpr (.inr ⟨hc, n, _, hn, hu, hd⟩), hs'⟩

/-- Placing confirms a child that already points at the parent. -/
theorem confirms_place (ha : t.attach p c = c) (hu : (t.upsert (some p)).Confirms P c ()) :
    (t.place p).Confirms P c () := by
  intro s hs
  obtain ⟨s', hu, hs'⟩ := hu s hs
  exact ⟨s', place_eq_ok.mpr (ha.symm ▸ hu), hs'⟩

/-- Reconciling confirms children that placing confirms, if all that is stored is among them. -/
theorem confirms_reconcile {cs : List C} {existing : List Int} (he : (t.existing p).Gives P existing)
    (hp : ∀ c ∈ cs, (t.place p).Confirms P c ()) (hk : ∀ i ∈ existing, i ∈ t.kept cs) :
    (t.reconcile p).Confirms P cs [] := by
  intro s hs
  obtain ⟨s₁, he, hs₁⟩ := he s hs
  obtain ⟨s₂, hp, hs₂⟩ := Confirms.eachOf hp hs₁
  exact ⟨s₂, reconcile_eq_ok.mpr ⟨existing, s₁, s₂, he, hp, (staleIds_eq_nil hk).symm, rfl⟩, hs₂⟩

end Reconciler

end TriviaStore
