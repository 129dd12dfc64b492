import TriviaStore.Proofs.Routine.Around
import TriviaStore.Transaction

/-! # Transactions taken apart

A transaction opens its session, does what it does around its work, and closes the session, whatever has
come of it until then. It succeeds if the work does between a beginning and a commit that succeed.
-/

namespace TriviaStore.SessionCalls

open Attempt

variable {σ τ α : Type} {calls : SessionCalls σ} {work : Attempt σ α} {s s' : σ}

/-! ## Opening and closing -/

theorem transaction_eq_ensuring (calls : SessionCalls σ) (work : Attempt σ α) :
    calls.transaction work =
      calls.acquire.escaping >>= fun _ => (calls.unit.around work).ensuring calls.close.escaping := by
  unfold transaction
  rw [Routine.around_after, Routine.around_ensuring]

theorem transaction_of_notOpened {e : Failure} (ha : calls.acquire s = (.error e, s')) :
    calls.transaction work s = (.error e.escape, s') :=
  Routine.around_of_notEntered (bind_of_error ha)

/-- Closing a session never fails. -/
def Closes (calls : SessionCalls σ) : Prop := ∀ s, (calls.close s).1 = .ok ()

theorem Closes.alongside (h : calls.Closes) : (calls.alongside (τ := τ)).Closes :=
  fun p => h p.2

/-- With an open session that can be closed, a transaction is what it does around its work. -/
theorem transaction_eq (hc : calls.Closes) {s₁ : σ} (ha : calls.acquire s = (.ok (), s₁)) :
    calls.transaction work s =
      ((calls.unit.around work s₁).1, (calls.close (calls.unit.around work s₁).2).2) := by
  rw [transaction_eq_ensuring, bind_of_ok (escaping_eq_ok.mpr ha)]
  rcases hw : calls.unit.around work s₁ with ⟨r, s₂⟩
  have hclosed := hc s₂
  rcases hs : calls.close s₂ with ⟨r', s₃⟩
  rw [hs] at hclosed
  obtain rfl : r' = .ok () := hclosed
  exact ensuring_of_ok hw (escaping_eq_ok.mpr hs)

/-! ## Success -/

theorem start_eq_ok : calls.start s = (.ok (), s') ↔ calls.begin s = (.ok (), s') :=
  mapFailure_eq_ok

theorem finish_eq_ok :
    calls.finish s = (.ok (), s') ↔
      ∃ s₁, calls.commit s = (.ok (), s₁) ∧ s' = calls.note .committed s₁ := by
  unfold SessionCalls.finish
  rcases calls.commit s with ⟨e | _, s₁⟩
  · cases e
    case driver d => simp only; split <;> simp
    all_goals simp
  · simp [eq_comm]

theorem unit_around_eq_ok {a : α} :
    calls.unit.around work s = (.ok a, s') ↔ ∃ s₁ s₂ s₃, calls.begin s = (.ok (), s₁) ∧
      work s₁ = (.ok a, s₂) ∧ calls.commit s₂ = (.ok (), s₃) ∧
      s' = calls.note .committed s₃ := by
  rw [Routine.around_eq_ok]
  constructor
  · rintro ⟨s₁, s₂, hb, hw, hf⟩
    obtain ⟨s₃, hm, rfl⟩ := finish_eq_ok.mp hf
    exact ⟨s₁, s₂, s₃, start_eq_ok.mp hb, hw, hm, rfl⟩
  · rintro ⟨s₁, s₂, s₃, hb, hw, hm, rfl⟩
    exact ⟨s₁, s₂, start_eq_ok.mpr hb, hw, finish_eq_ok.mpr ⟨s₃, hm, rfl⟩⟩

/-- A transaction succeeds if its work does between a beginning and a commit that succeed. -/
theorem transaction_eq_ok (hc : calls.Closes) {s₀ : σ} {a : α}
    (ha : calls.acquire s = (.ok (), s₀)) :
    calls.transaction work s = (.ok a, s') ↔ ∃ s₁ s₂ s₃, calls.begin s₀ = (.ok (), s₁) ∧
      work s₁ = (.ok a, s₂) ∧ calls.commit s₂ = (.ok (), s₃) ∧
      s' = (calls.close (calls.note .committed s₃)).2 := by
  rw [transaction_eq hc ha]
  constructor
  · intro h
    rcases hi : calls.unit.around work s₀ with ⟨r, y⟩
    rw [hi] at h
    obtain ⟨rfl, rfl⟩ := Prod.mk.inj h
    obtain ⟨s₁, s₂, s₃, hb, hw, hm, rfl⟩ := unit_around_eq_ok.mp hi
    exact ⟨s₁, s₂, s₃, hb, hw, hm, rfl⟩
  · rintro ⟨s₁, s₂, s₃, hb, hw, hm, rfl⟩
    rw [unit_around_eq_ok.mpr ⟨s₁, s₂, s₃, hb, hw, hm, rfl⟩]

end TriviaStore.SessionCalls
