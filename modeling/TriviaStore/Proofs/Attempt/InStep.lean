import TriviaStore.Proofs.Attempt.Outcome

/-! # Attempts in step

Two attempts on different states go in step if, from states that are related, both succeed, with results
and states that go together, or both fail, with the same failure. Composite attempts go in step if their
parts do.
-/

namespace TriviaStore

variable {σ τ C α β γ δ : Type}

/-- Two ends in step: with results and states that go together, or with one failure. -/
inductive EndsInStep (S : α → β → σ → τ → Prop) (E : σ → τ → Prop) :
    Except Failure α × σ → Except Failure β × τ → Prop
  | ok {x : α} {y : β} {s : σ} {s' : τ} : S x y s s' → EndsInStep S E (.ok x, s) (.ok y, s')
  | error {e : Failure} {s : σ} {s' : τ} : E s s' → EndsInStep S E (.error e, s) (.error e, s')

/-- From related states two attempts end in step. -/
def Attempt.InStep (R : σ → τ → Prop) (S : α → β → σ → τ → Prop) (E : σ → τ → Prop)
    (a : Attempt σ α) (b : Attempt τ β) : Prop :=
  ∀ s s', R s s' → EndsInStep S E (a s) (b s')

/-- The same entity in front of related states. -/
def Beside (R : σ → τ → Prop) (x : C × σ) (y : C × τ) : Prop := x.1 = y.1 ∧ R x.2 y.2

namespace EndsInStep

variable {S : α → β → σ → τ → Prop} {E : σ → τ → Prop}

theorem bind {T : γ → δ → σ → τ → Prop} {a : Attempt σ α} {b : Attempt τ β} {s : σ} {s' : τ}
    {f : α → Attempt σ γ} {g : β → Attempt τ δ} (h : EndsInStep S E (a s) (b s'))
    (hf : ∀ x y, Attempt.InStep (S x y) T E (f x) (g y)) :
    EndsInStep T E ((a >>= f) s) ((b >>= g) s') := by
  rw [Attempt.bind_run, Attempt.bind_run]
  generalize a s = o at h
  generalize b s' = o' at h
  cases h with
  | ok h => exact hf _ _ _ _ h
  | error h => exact .error h

/-- Failures that are told in words which related states have in common. -/
theorem mapFailure {a : Attempt σ α} {b : Attempt τ β} {s : σ} {s' : τ}
    {f : σ → Failure → Failure} {g : τ → Failure → Failure} (h : EndsInStep S E (a s) (b s'))
    (hfg : ∀ s s', E s s' → f s = g s') :
    EndsInStep S E (a.mapFailure f s) (b.mapFailure g s') := by
  unfold Attempt.mapFailure
  generalize a s = o at h
  generalize b s' = o' at h
  cases h with
  | ok h => exact .ok h
  | @error e s s' h =>
    dsimp only
    rw [hfg s s' h]
    exact .error h

theorem wrapping {a : Attempt σ α} {b : Attempt τ β} {s : σ} {s' : τ} {m : σ → String}
    {n : τ → String} (h : EndsInStep S E (a s) (b s')) (hmn : ∀ s s', E s s' → m s = n s') :
    EndsInStep S E (a.wrapping m s) (b.wrapping n s') :=
  h.mapFailure fun s s' hE => by rw [hmn s s' hE]

theorem inContext {a : Attempt σ α} {b : Attempt τ β} {s : σ} {s' : τ} {m : σ → String}
    {n : τ → String} (h : EndsInStep S E (a s) (b s')) (hmn : ∀ s s', E s s' → m s = n s') :
    EndsInStep S E (a.inContext m s) (b.inContext n s') :=
  h.mapFailure fun s s' hE => by rw [hmn s s' hE]

theorem onSecond {a : Attempt σ α} {b : Attempt τ β} {c : C} {s : σ} {s' : τ}
    (h : EndsInStep S E (a s) (b s')) :
    EndsInStep (fun x y p q => p.1 = c ∧ q.1 = c ∧ S x y p.2 q.2) (Beside E) (a.onSecond (c, s))
      (b.onSecond (c, s')) := by
  unfold Attempt.onSecond
  dsimp only
  generalize a s = o at h
  generalize b s' = o' at h
  cases h with
  | ok h => exact .ok ⟨rfl, rfl, h⟩
  | error h => exact .error ⟨rfl, h⟩

end EndsInStep

namespace Attempt

variable {R : σ → τ → Prop} {S : α → β → σ → τ → Prop} {E : σ → τ → Prop}

theorem inStep_pure {x : α} {y : β} (h : ∀ s s', R s s' → S x y s s') :
    InStep R S E (pure x : Attempt σ α) (pure y) := fun s s' hR => .ok (h s s' hR)

theorem inStep_update {f : σ → σ} {g : τ → τ} {S : Unit → Unit → σ → τ → Prop}
    (h : ∀ s s', R s s' → S () () (f s) (g s')) : InStep R S E (update f) (update g) :=
  fun s s' hR => .ok (h s s' hR)

theorem InStep.bind {T : γ → δ → σ → τ → Prop} {a : Attempt σ α} {b : Attempt τ β}
    {f : α → Attempt σ γ} {g : β → Attempt τ δ} (h : InStep R S E a b)
    (hf : ∀ x y, InStep (S x y) T E (f x) (g y)) : InStep R T E (a >>= f) (b >>= g) :=
  fun s s' hR => (h s s' hR).bind hf

theorem InStep.forAll {f : C → Attempt σ Unit} {g : C → Attempt τ Unit} {cs : List C}
    (h : ∀ c ∈ cs, InStep R (fun _ _ => R) E (f c) (g c)) :
    InStep R (fun _ _ => R) E (forAll f cs) (forAll g cs) := by
  induction cs with
  | nil => exact inStep_pure fun _ _ hR => hR
  | cons c cs ih =>
    exact InStep.bind (h c List.mem_cons_self) fun _ _ =>
      ih fun d hd => h d (List.mem_cons_of_mem _ hd)

/-- Work on the members of a list goes in step if work on each of them does. A member may use up some of
what the relation still has in store. -/
theorem inStep_eachOf {R : Nat → σ → τ → Prop} {cost : C → Nat} {a : Attempt (C × σ) Unit}
    {b : Attempt (C × τ) Unit} {cs : List C}
    (h : ∀ c ∈ cs, ∀ n s s', R (cost c + n) s s' →
      EndsInStep (fun _ _ => Beside (R n)) (Beside E) (a (c, s)) (b (c, s')))
    {n : Nat} {s : σ} {s' : τ} (hR : R (cs.foldr (fun c m => cost c + m) n) s s') :
    EndsInStep (fun _ _ => Beside (R n)) (Beside E) (eachOf a cs s) (eachOf b cs s') := by
  induction cs generalizing s s' with
  | nil => exact .ok ⟨rfl, hR⟩
  | cons c cs ih =>
    have hc := h c List.mem_cons_self _ s s' hR
    simp only [eachOf]
    generalize a (c, s) = o at hc
    generalize b (c, s') = o' at hc
    cases hc with
    | @error e x y hE =>
      obtain ⟨d, s₁⟩ := x
      obtain ⟨_, s₁'⟩ := y
      obtain ⟨rfl, hE⟩ := hE
      exact .error ⟨rfl, hE⟩
    | @ok _ _ x y hc =>
      obtain ⟨d, s₁⟩ := x
      obtain ⟨_, s₁'⟩ := y
      obtain ⟨rfl, hR₁⟩ := hc
      have hcs := ih (fun d hd => h d (List.mem_cons_of_mem _ hd)) hR₁
      dsimp only at hcs ⊢
      generalize eachOf a cs s₁ = o at hcs
      generalize eachOf b cs s₁' = o' at hcs
      cases hcs with
      | ok hcs => exact .ok ⟨congrArg (d :: ·) hcs.1, hcs.2⟩
      | error hcs => exact .error ⟨congrArg (d :: ·) hcs.1, hcs.2⟩

end Attempt

end TriviaStore
