import TriviaStore.Proofs.Transaction.Scope

/-! # What transactions keep

A session shields a property if only a commit that succeeds can lose it. A transaction that fails
then keeps every shielded property that its work keeps, wherever it was cut short; one that succeeds
is the work between an opened and a committed session.
-/

namespace TriviaStore.SessionCalls

open Attempt

variable {σ τ α : Type} {P : σ → Prop} {calls : SessionCalls σ} {work : Attempt σ α}

/-- Only a commit that succeeds can lose the property. -/
structure Shields (calls : SessionCalls σ) (P : σ → Prop) : Prop where
  acquire : calls.acquire.Keeps P
  begin : calls.begin.Keeps P
  rollback : calls.rollback.Keeps P
  close : calls.close.Keeps P
  note : ∀ e s, P s → P (calls.note e s)
  commit_error : ∀ s e s', P s → calls.commit s = (.error e, s') → P s'

theorem Shields.alongside (h : calls.Shields P) :
    (calls.alongside (τ := τ)).Shields (OnSecond P) where
  acquire := h.acquire.onSecond
  begin := h.begin.onSecond
  rollback := h.rollback.onSecond
  close := h.close.onSecond
  note e p hp := h.note e p.2 hp
  commit_error p e p' hp hc := by
    rcases hs : calls.commit p.2 with ⟨r, s'⟩
    have hp' : (r, (p.1, s')) = (.error e, p') := by
      rw [← hc]; simp [SessionCalls.alongside, Attempt.onSecond, hs]
    simp only [Prod.mk.injEq] at hp'
    obtain ⟨rfl, rfl⟩ := hp'
    exact h.commit_error _ _ _ hp hs

theorem Shields.undo (h : calls.Shields P) : calls.undo.Keeps P := by
  intro s hs
  have h₁ := h.rollback s hs
  unfold SessionCalls.undo
  split <;> rename_i s' hr <;> rw [hr] at h₁
  · exact h.note _ _ h₁
  · exact h.note _ _ h₁
  · exact h₁

theorem Shields.finish_onFailure (h : calls.Shields P) : calls.finish.KeepsOnFailure P := by
  intro s e s' hs hf
  unfold SessionCalls.finish at hf
  split at hf
  · simp at hf
  · rename_i d s₁ hc
    have h₂ := h.undo _ (h.commit_error _ _ _ hs hc)
    split at hf <;> rename_i hu <;> rw [hu] at h₂ <;> cases hf <;> exact h₂
  · rename_i hc
    cases hf
    exact h.commit_error _ _ _ hs hc

theorem Shields.finish (h : calls.Shields P) (hc : calls.commit.Keeps P) :
    calls.finish.Keeps P := by
  intro s hs
  rcases hf : calls.finish s with ⟨e | _, s'⟩
  · exact h.finish_onFailure s e s' hs hf
  · have h₁ := hc s hs
    unfold SessionCalls.finish at hf
    split at hf
    · rename_i hr
      rw [hr] at h₁
      cases hf
      exact h.note _ _ h₁
    · split at hf <;> cases hf
    · cases hf

theorem Shields.start (h : calls.Shields P) : calls.start.Keeps P := h.begin.mapFailure

/-! ## Whole transactions -/

/-- Whatever cuts a transaction short, what is shielded and kept by the work is kept. -/
theorem Shields.transaction_onFailure (h : calls.Shields P) (hc : calls.Closes)
    (hw : work.Keeps P) : (calls.transaction work).KeepsOnFailure P := by
  intro s e s' hs ht
  rcases ha : calls.acquire s with ⟨e' | _, s₁⟩
  · cases (transaction_of_notOpened ha).symm.trans ht
    exact h.acquire.run hs ha
  · rw [transaction_eq hc ha] at ht
    rcases hi : calls.unit.around work s₁ with ⟨r, s₂⟩
    rw [hi] at ht
    obtain ⟨rfl, rfl⟩ := Prod.mk.inj ht
    have hkept : (calls.unit.around work).KeepsOnFailure P :=
      KeepsOnFailure.around h.start h.finish_onFailure h.undo hw
    exact h.close s₂ (hkept s₁ e s₂ (h.acquire.run hs ha) hi)

/-- A transaction keeps what its session and its work keep, the commit included. -/
theorem Shields.transaction (h : calls.Shields P) (hw : work.Keeps P) (hm : calls.commit.Keeps P) :
    (calls.transaction work).Keeps P := by
  have hinner : (calls.unit.around work).Keeps P := Keeps.around h.start (h.finish hm) h.undo hw
  rw [transaction_eq_ensuring]
  exact Keeps.bind h.acquire.escaping fun _ => hinner.ensuring h.close.escaping

/-- What the calls of a session leave as it is, a transaction leaves as its work does, unless it fails
before the work begins. -/
theorem transaction_around {β : Type} {f : σ → β} (h : ∀ x, calls.Shields (f · = x)) (hc : calls.Closes)
    (hm : ∀ x, calls.commit.Keeps (f · = x)) (s : σ) :
    ((calls.transaction work s).1.isOk = false ∧ f (calls.transaction work s).2 = f s) ∨
      ∃ s₁, f s₁ = f s ∧ f (calls.transaction work s).2 = f (work s₁).2 ∧
        ((calls.transaction work s).1.isOk = true → (work s₁).1.isOk = true) := by
  rcases ha : calls.acquire s with ⟨e | _, s₁⟩
  · rw [transaction_of_notOpened ha]
    exact .inl ⟨rfl, (h (f s)).acquire.run rfl ha⟩
  have hacquire : f s₁ = f s := (h (f s)).acquire.run rfl ha
  have hclose (s₂ : σ) : f (calls.close s₂).2 = f s₂ := (h _).close _ rfl
  rw [transaction_eq hc ha, hclose]
  rcases hb : calls.unit.enter s₁ with ⟨e | _, s₂⟩
  · rw [Routine.around_of_notEntered hb]
    exact .inl ⟨rfl, (h (f s)).start.run hacquire hb⟩
  refine .inr ⟨s₂, (h (f s)).start.run hacquire hb, ?_⟩
  rcases hw : work s₂ with ⟨e | a, s₃⟩
  · rw [Routine.around_of_failed hb hw]
    refine ⟨Keeps.bind (h (f s₃)).undo.escaping (fun _ => keeps_fail e) s₃ rfl, ?_⟩
    rw [bind_run]
    split <;> exact nofun
  · rw [Routine.around_of_done hb hw]
    exact ⟨Keeps.bind ((h (f s₃)).finish (hm (f s₃))).escaping (fun _ => keeps_pure a) s₃ rfl,
      fun _ => rfl⟩

end TriviaStore.SessionCalls
