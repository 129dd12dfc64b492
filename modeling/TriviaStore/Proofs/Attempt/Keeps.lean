import TriviaStore.Proofs.Attempt.Outcome

/-! # What attempts keep

A property of states is kept by an attempt if it holds of the state that is left behind, whether the
attempt succeeds or fails. Composite attempts keep what their parts keep.
-/

namespace TriviaStore

variable {σ τ α β : Type}

/-- Whatever the outcome, a state with the property is followed by a state with the property. -/
def Attempt.Keeps (P : σ → Prop) (a : Attempt σ α) : Prop := ∀ s, P s → P (a s).2

/-- The property of a pair that its second half has a property. -/
def OnSecond (P : σ → Prop) (p : τ × σ) : Prop := P p.2

namespace Attempt

variable {P : σ → Prop} {a : Attempt σ α}

theorem Keeps.run (ha : a.Keeps P) {s s' : σ} {r : Except Failure α} (hs : P s) (h : a s = (r, s')) :
    P s' := by
  have h₁ := ha s hs
  rwa [h] at h₁

theorem keeps_pure (x : α) : (pure x : Attempt σ α).Keeps P := fun _ hs => hs

theorem keeps_fail (e : Failure) : (fail e : Attempt σ α).Keeps P := fun _ hs => hs

theorem keeps_read : (read : Attempt σ σ).Keeps P := fun _ hs => hs

theorem keeps_update {f : σ → σ} (h : ∀ s, P s → P (f s)) : (update f).Keeps P := h

/-- Once the property holds, it is enough that what follows keeps it. -/
theorem keeps_after {f : α → Attempt σ β} {s : σ} (ha : P (a s).2) (hf : ∀ x, (f x).Keeps P) :
    P ((a >>= f) s).2 := by
  rcases h : a s with ⟨e | x, s₁⟩ <;> rw [h] at ha
  · rwa [bind_of_error h]
  · rw [bind_of_ok h]
    exact hf x s₁ ha

theorem Keeps.bind {f : α → Attempt σ β} (ha : a.Keeps P) (hf : ∀ x, (f x).Keeps P) :
    (a >>= f).Keeps P := fun s hs => keeps_after (ha s hs) hf

theorem Keeps.mapFailure {g : σ → Failure → Failure} (ha : a.Keeps P) :
    (a.mapFailure g).Keeps P := by
  intro s hs
  rw [mapFailure_snd]
  exact ha s hs

theorem Keeps.wrapping {m : σ → String} (ha : a.Keeps P) : (a.wrapping m).Keeps P := ha.mapFailure

theorem Keeps.inContext {m : σ → String} (ha : a.Keeps P) : (a.inContext m).Keeps P := ha.mapFailure

theorem Keeps.onSecond (ha : a.Keeps P) :
    (a.onSecond : Attempt (τ × σ) α).Keeps (OnSecond P) := fun p hp => ha p.2 hp

theorem Keeps.upon {a : Attempt (τ × σ) α} (ha : a.Keeps (OnSecond P)) (t : τ) :
    (a.upon t).Keeps P := fun s hs => ha (t, s) hs

theorem Keeps.eachOf {a : Attempt (τ × σ) Unit} (ha : a.Keeps (OnSecond P)) (ts : List τ) {s : σ}
    (hs : P s) : P (eachOf a ts s).2.2 := by
  induction ts generalizing s with
  | nil => exact hs
  | cons t ts ih =>
    have h₁ : P (a (t, s)).2.2 := ha (t, s) hs
    rcases h : a (t, s) with ⟨e | _, u, s₁⟩
    · rw [eachOf_cons_of_error h]
      rwa [h] at h₁
    · rw [eachOf_cons_of_ok h]
      rw [h] at h₁
      exact ih h₁

theorem Keeps.each {a : Attempt (τ × σ) Unit} (ha : a.Keeps (OnSecond P)) :
    (each a).Keeps (OnSecond P) := fun p hp => ha.eachOf p.1 hp

theorem Keeps.forAll {f : τ → Attempt σ Unit} (hf : ∀ t, (f t).Keeps P) (ts : List τ) :
    (forAll f ts).Keeps P := by
  induction ts with
  | nil => exact keeps_pure ()
  | cons t ts ih => exact Keeps.bind (hf t) fun _ => ih

theorem Keeps.collect {f : τ → Attempt σ α} (hf : ∀ t, (f t).Keeps P) (ts : List τ) :
    (collect f ts).Keeps P := by
  induction ts with
  | nil => exact keeps_pure []
  | cons t ts ih => exact Keeps.bind (hf t) fun a => Keeps.bind ih fun as => keeps_pure (a :: as)

/-! ## Failing -/

/-- A failure is followed by a state with the property. -/
def KeepsOnFailure (P : σ → Prop) (a : Attempt σ α) : Prop :=
  ∀ s e s', P s → a s = (.error e, s') → P s'

theorem KeepsOnFailure.bind {f : α → Attempt σ β} (ha : a.Keeps P)
    (hf : ∀ x, (f x).KeepsOnFailure P) : (a >>= f).KeepsOnFailure P := by
  intro s e s' hs h
  have h₁ := ha s hs
  rcases bind_eq_error.mp h with h | ⟨x, s₁, hx, h⟩
  · rwa [h] at h₁
  · rw [hx] at h₁
    exact hf x s₁ e s' h₁ h

theorem KeepsOnFailure.bind_of_succeeds {f : α → Attempt σ β} (ha : a.KeepsOnFailure P)
    (hf : ∀ x s, ∃ y, (f x s).1 = .ok y) : (a >>= f).KeepsOnFailure P := by
  intro s e s' hs h
  rcases bind_eq_error.mp h with h | ⟨x, s₁, _, h⟩
  · exact ha s e s' hs h
  · obtain ⟨y, hy⟩ := hf x s₁
    rw [h] at hy
    cases hy

theorem KeepsOnFailure.upon {a : Attempt (τ × σ) α} (ha : a.KeepsOnFailure (OnSecond P)) (t : τ) :
    (a.upon t).KeepsOnFailure P := by
  intro s e s' hs h
  rcases hr : a (t, s) with ⟨r, t', s₁⟩
  simp only [Attempt.upon, hr, Prod.mk.injEq] at h
  obtain ⟨rfl, rfl⟩ := h
  exact ha (t, s) e (t', s₁) hs hr

end Attempt

end TriviaStore
