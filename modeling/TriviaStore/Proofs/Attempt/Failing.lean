import TriviaStore.Proofs.Attempt.Outcome

/-! # Failing attempts

A composite attempt fails where the first of its parts fails, and the state left behind is the one left
there. One lemma for each way of building an attempt tells what has happened until then, and in which
words the failure is told.
-/

namespace TriviaStore

/-- A driver error is told as the cause of a store error; other failures are told as they are. -/
def Failure.wrappedIn (message : String) : Failure → Failure
  | .driver d => .store (.because message d)
  | e => e

/-- A store error is told with the operation that was under way; other failures as they are. -/
def Failure.under (context : String) : Failure → Failure
  | .store d => .store (d.addContext context)
  | e => e

namespace Attempt

variable {σ τ α : Type} {s s' : σ} {e : Failure}

theorem mapFailure_eq_error {a : Attempt σ α} {g : σ → Failure → Failure} :
    a.mapFailure g s = (.error e, s') ↔ ∃ f, a s = (.error f, s') ∧ e = g s' f := by
  unfold mapFailure
  rcases a s with ⟨f | x, s₁⟩
  · constructor
    · intro h
      cases h
      exact ⟨f, rfl, rfl⟩
    · rintro ⟨_, h, rfl⟩
      cases h
      rfl
  · simp

theorem wrapping_eq_error {a : Attempt σ α} {m : σ → String} :
    a.wrapping m s = (.error e, s') ↔ ∃ f, a s = (.error f, s') ∧ e = f.wrappedIn (m s') :=
  mapFailure_eq_error

theorem inContext_eq_error {a : Attempt σ α} {m : σ → String} :
    a.inContext m s = (.error e, s') ↔ ∃ f, a s = (.error f, s') ∧ e = f.under (m s') :=
  mapFailure_eq_error

theorem onSecond_eq_error {a : Attempt σ α} {t t' : τ} :
    a.onSecond (t, s) = (.error e, (t', s')) ↔ a s = (.error e, s') ∧ t' = t := by
  rcases h : a s with ⟨r, s₁⟩
  simp only [onSecond, h, Prod.mk.injEq]
  constructor
  · rintro ⟨hr, ht, hs⟩
    exact ⟨⟨hr, hs⟩, ht.symm⟩
  · rintro ⟨⟨hr, hs⟩, ht⟩
    exact ⟨hr, ht.symm, hs⟩

theorem upon_eq_error {a : Attempt (τ × σ) α} {t : τ} :
    a.upon t s = (.error e, s') ↔ ∃ t', a (t, s) = (.error e, (t', s')) := by
  rcases h : a (t, s) with ⟨r, t', s₁⟩
  simp only [upon, h, Prod.mk.injEq]
  constructor
  · rintro ⟨rfl, rfl⟩
    exact ⟨t', rfl, rfl, rfl⟩
  · rintro ⟨_, rfl, -, rfl⟩
    exact ⟨rfl, rfl⟩

/-- The members in front of the one at which the work fails have been worked on, and those behind it
are as they were. -/
theorem eachOf_eq_error {a : Attempt (τ × σ) Unit} {ts us : List τ} :
    eachOf a ts s = (.error e, (us, s')) ↔ ∃ front t rest done s₁ u, ts = front ++ t :: rest ∧
      eachOf a front s = (.ok (), (done, s₁)) ∧ a (t, s₁) = (.error e, (u, s')) ∧
      us = done ++ u :: rest := by
  constructor
  · intro h
    induction ts generalizing s us with
    | nil => cases h
    | cons t ts ih =>
      rcases ht : a (t, s) with ⟨f | _, u, s₁⟩
      · rw [eachOf_cons_of_error ht] at h
        cases h
        exact ⟨[], t, ts, [], s, u, rfl, rfl, ht, rfl⟩
      · rw [eachOf_cons_of_ok ht] at h
        rcases hr : eachOf a ts s₁ with ⟨r, us', s₂⟩
        rw [hr] at h
        cases h
        obtain ⟨front, v, rest, done, s₃, w, rfl, hf, hv, rfl⟩ := ih hr
        exact ⟨t :: front, v, rest, u :: done, s₃, w, rfl,
          eachOf_cons_eq_ok.mpr ⟨u, s₁, done, ht, hf, rfl⟩, hv, rfl⟩
  · rintro ⟨front, t, rest, done, s₁, u, rfl, hf, ht, rfl⟩
    rw [eachOf_append_of_ok (t :: rest) hf, eachOf_cons_of_error ht]

theorem forAll_eq_error {f : τ → Attempt σ Unit} {ts : List τ} :
    forAll f ts s = (.error e, s') ↔ ∃ front t rest s₁, ts = front ++ t :: rest ∧
      forAll f front s = (.ok (), s₁) ∧ f t s₁ = (.error e, s') := by
  have hcons : ∀ t ts s, forAll f (t :: ts) s = (f t >>= fun _ => forAll f ts) s := fun _ _ _ => rfl
  constructor
  · intro h
    induction ts generalizing s with
    | nil => cases h
    | cons t ts ih =>
      rw [hcons, bind_eq_error] at h
      rcases h with h | ⟨_, s₁, ht, h⟩
      · exact ⟨[], t, ts, s, rfl, rfl, h⟩
      · obtain ⟨front, v, rest, s₂, rfl, hf, hv⟩ := ih h
        exact ⟨t :: front, v, rest, s₂, rfl, forAll_cons_eq_ok.mpr ⟨s₁, ht, hf⟩, hv⟩
  · rintro ⟨front, t, rest, s₁, rfl, hf, ht⟩
    induction front generalizing s with
    | nil =>
      cases hf
      rw [List.nil_append, hcons, bind_of_error ht]
    | cons v front ih =>
      obtain ⟨s₂, hv, hf⟩ := forAll_cons_eq_ok.mp hf
      rw [List.cons_append, hcons, bind_of_ok hv, ih hf]

end Attempt

end TriviaStore
