import TriviaStore.Proofs.Attempt.InStep

/-! # Retracing successes

An attempt is retraced by another one if, from states that are related, the other succeeds whenever it
does, with the same result, and the states after that are related again. Nothing is said of failures, so
that an attempt made under disturbances can be retraced by one that meets none.
-/

namespace TriviaStore

variable {σ τ C α : Type}

/-- Whenever the first attempt gives a result of interest, the second gives it from every related state,
and they end in related states. -/
def Attempt.Retraced (R : σ → τ → Prop) (P : α → Prop) (a : Attempt σ α) (b : Attempt τ α) : Prop :=
  ∀ s d, R s d → ∀ x s', P x → a s = (.ok x, s') → ∃ d', b d = (.ok x, d') ∧ R s' d'

/-- All results are of interest. -/
def Anything (_ : α) : Prop := True

namespace Attempt

variable {R : σ → τ → Prop} {s s' : σ} {d : τ}

/-- An entity is left alike. -/
theorem Retraced.beside {P : α → Prop} {a : Attempt (C × σ) α} {b : Attempt (C × τ) α} {c c' : C}
    {x : α} (h : Retraced (Beside R) P a b) (hR : R s d) (hx : P x)
    (ha : a (c, s) = (.ok x, (c', s'))) : ∃ d', b (c, d) = (.ok x, (c', d')) ∧ R s' d' := by
  obtain ⟨⟨_, d'⟩, hb, rfl, hR'⟩ := h (c, s) (c, d) ⟨rfl, hR⟩ x (c', s') hx ha
  exact ⟨d', hb, hR'⟩

theorem retraced_done {P : α → Prop} {x : α} : Retraced R P (done x) (done x) := by
  rintro s d hR _ _ - ⟨⟩
  exact ⟨d, rfl, hR⟩

/-- Two lists that are made of one are left alike, if both entities made of any of its members are. -/
theorem eachOf_map_retraced {E : Type} {a : Attempt (C × σ) Unit} {b : Attempt (C × τ) Unit}
    {f g : E → C} {es : List E} {cs' : List C}
    (h : ∀ e ∈ es, ∀ s d c' s', R s d → a (f e, s) = (.ok (), (c', s')) →
      ∃ d', b (g e, d) = (.ok (), (c', d')) ∧ R s' d')
    (hR : R s d) (ha : eachOf a (es.map f) s = (.ok (), (cs', s'))) :
    ∃ d', eachOf b (es.map g) d = (.ok (), (cs', d')) ∧ R s' d' := by
  induction es generalizing s d cs' with
  | nil =>
    cases ha
    exact ⟨d, rfl, hR⟩
  | cons e es ih =>
    obtain ⟨c', s₁, cs₁, hc, hrest, rfl⟩ := eachOf_cons_eq_ok.mp ha
    obtain ⟨d₁, hd, hR₁⟩ := h e List.mem_cons_self s d c' s₁ hR hc
    obtain ⟨d', hds, hR'⟩ := ih (fun e he => h e (List.mem_cons_of_mem _ he)) hR₁ hrest
    exact ⟨d', eachOf_cons_eq_ok.mpr ⟨c', d₁, cs₁, hd, hds, rfl⟩, hR'⟩

theorem Retraced.eachOf {a : Attempt (C × σ) Unit} {b : Attempt (C × τ) Unit} {cs cs' : List C}
    (h : Retraced (Beside R) Anything a b) (hR : R s d) (ha : eachOf a cs s = (.ok (), (cs', s'))) :
    ∃ d', Attempt.eachOf b cs d = (.ok (), (cs', d')) ∧ R s' d' := by
  rw [← List.map_id cs] at ha ⊢
  exact eachOf_map_retraced (fun _ _ _ _ _ _ hR ha => h.beside hR trivial ha) hR ha

theorem Retraced.forAll {f : C → Attempt σ Unit} {g : C → Attempt τ Unit} {cs : List C}
    (h : ∀ c, Retraced R Anything (f c) (g c)) (hR : R s d) (hf : forAll f cs s = (.ok (), s')) :
    ∃ d', Attempt.forAll g cs d = (.ok (), d') ∧ R s' d' := by
  induction cs generalizing s d with
  | nil =>
    cases hf
    exact ⟨d, rfl, hR⟩
  | cons c cs ih =>
    obtain ⟨s₁, hc, hrest⟩ := forAll_cons_eq_ok.mp hf
    obtain ⟨d₁, hd, hR₁⟩ := h c s d hR () s₁ trivial hc
    obtain ⟨d', hds, hR'⟩ := ih hR₁ hrest
    exact ⟨d', forAll_cons_eq_ok.mpr ⟨d₁, hd, hds⟩, hR'⟩

end Attempt

end TriviaStore
