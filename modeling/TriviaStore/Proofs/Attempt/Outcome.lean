import TriviaStore.Attempt

/-! # Outcomes of attempts

A composite attempt succeeds exactly when its parts succeed one after the other, and fails when the
first of them fails. One lemma for each way of building an attempt takes a run apart into the runs
of its parts.
-/

namespace TriviaStore

instance decidableEqExcept {ε α : Type} [DecidableEq ε] [DecidableEq α] :
    DecidableEq (Except ε α)
  | .ok x, .ok y => decidable_of_iff (x = y) ⟨congrArg _, Except.ok.inj⟩
  | .error e, .error f => decidable_of_iff (e = f) ⟨congrArg _, Except.error.inj⟩
  | .ok _, .error _ => .isFalse nofun
  | .error _, .ok _ => .isFalse nofun

variable {σ τ α β : Type}

/-- Carry out an attempt on an entity that is given along with it, and keep only the second half. -/
def Attempt.upon (t : τ) (a : Attempt (τ × σ) α) : Attempt σ α := fun s =>
  let (r, (_, s')) := a (t, s)
  (r, s')

namespace Attempt

section Success

variable {a : Attempt σ α} {f : α → Attempt σ β} {s s' : σ} {x : α} {y : β}

@[simp] theorem read_run (s : σ) : read s = (.ok s, s) := rfl

@[simp] theorem update_run (g : σ → σ) (s : σ) : update g s = (.ok (), g s) := rfl

theorem fail_run (e : Failure) (s : σ) : (fail e : Attempt σ α) s = (.error e, s) := rfl

theorem bind_run (a : Attempt σ α) (f : α → Attempt σ β) (s : σ) :
    (a >>= f) s = match a s with
      | (.ok x, s') => f x s'
      | (.error e, s') => (.error e, s') := rfl

theorem bind_of_ok (h : a s = (.ok x, s')) : (a >>= f) s = f x s' := by
  rw [bind_run, h]

theorem bind_of_error {e : Failure} (h : a s = (.error e, s')) : (a >>= f) s = (.error e, s') := by
  rw [bind_run, h]

theorem bind_eq_ok :
    (a >>= f) s = (.ok y, s') ↔ ∃ x s₁, a s = (.ok x, s₁) ∧ f x s₁ = (.ok y, s') := by
  constructor
  · intro h
    rcases ha : a s with ⟨e | x, s₁⟩
    · simp [bind_of_error ha] at h
    · exact ⟨x, s₁, rfl, by rwa [bind_of_ok ha] at h⟩
  · rintro ⟨x, s₁, ha, hf⟩
    rwa [bind_of_ok ha]

theorem bind_eq_error {e : Failure} :
    (a >>= f) s = (.error e, s') ↔
      a s = (.error e, s') ∨ ∃ x s₁, a s = (.ok x, s₁) ∧ f x s₁ = (.error e, s') := by
  rcases ha : a s with ⟨e' | x, s₁⟩
  · simp [bind_of_error ha]
  · rw [bind_of_ok ha]
    constructor
    · exact fun h => .inr ⟨x, s₁, rfl, h⟩
    · rintro (h | ⟨_, _, h, hf⟩)
      · cases h
      · cases h; exact hf

@[simp] theorem mapFailure_snd {g : σ → Failure → Failure} : (a.mapFailure g s).2 = (a s).2 := by
  unfold mapFailure
  rcases a s with ⟨_ | _, _⟩ <;> rfl

theorem mapFailure_eq_ok {g : σ → Failure → Failure} :
    a.mapFailure g s = (.ok x, s') ↔ a s = (.ok x, s') := by
  unfold mapFailure
  rcases a s with ⟨_ | _, _⟩ <;> simp

theorem wrapping_eq_ok {m : σ → String} : a.wrapping m s = (.ok x, s') ↔ a s = (.ok x, s') :=
  mapFailure_eq_ok

theorem inContext_eq_ok {m : σ → String} : a.inContext m s = (.ok x, s') ↔ a s = (.ok x, s') :=
  mapFailure_eq_ok

theorem inContext_store {e : StoreError} {m : σ → String} (h : a s = (.error (.store e), s')) :
    a.inContext m s = (.error (.store (e.addContext (m s'))), s') := by
  unfold inContext mapFailure
  rw [h]

theorem isOk_of_map {r : Except Failure α} {g : α → β} (h : (r.map g).isOk = true) : r.isOk = true := by
  cases r with
  | error _ => cases h
  | ok _ => rfl

theorem onSecond_eq_ok {t t' : τ} :
    a.onSecond (t, s) = (.ok x, (t', s')) ↔ a s = (.ok x, s') ∧ t' = t := by
  rcases h : a s with ⟨r, s₁⟩
  simp only [onSecond, h, Prod.mk.injEq]
  constructor
  · rintro ⟨hr, ht, hs⟩; exact ⟨⟨hr, hs⟩, ht.symm⟩
  · rintro ⟨⟨hr, hs⟩, ht⟩; exact ⟨hr, ht.symm, hs⟩

end Success

/-! ## Lists -/

section Lists

variable {a : Attempt (τ × σ) Unit} {t : τ} {ts us : List τ} {s s' : σ}

theorem eachOf_cons_of_ok {u : τ} {s₁ : σ} (h : a (t, s) = (.ok (), (u, s₁))) :
    eachOf a (t :: ts) s = ((eachOf a ts s₁).1, (u :: (eachOf a ts s₁).2.1, (eachOf a ts s₁).2.2)) := by
  simp only [eachOf, h]

theorem eachOf_cons_of_error {u : τ} {s₁ : σ} {e : Failure} (h : a (t, s) = (.error e, (u, s₁))) :
    eachOf a (t :: ts) s = (.error e, (u :: ts, s₁)) := by
  simp only [eachOf, h]

theorem eachOf_cons_eq_ok :
    eachOf a (t :: ts) s = (.ok (), (us, s')) ↔
      ∃ u s₁ us', a (t, s) = (.ok (), (u, s₁)) ∧ eachOf a ts s₁ = (.ok (), (us', s')) ∧
        us = u :: us' := by
  rcases h : a (t, s) with ⟨e | _, u, s₁⟩
  · simp [eachOf_cons_of_error h]
  · rw [eachOf_cons_of_ok h]
    constructor
    · intro ht
      simp only [Prod.mk.injEq] at ht
      obtain ⟨hr, rfl, rfl⟩ := ht
      exact ⟨u, s₁, _, rfl, by rw [← hr], rfl⟩
    · rintro ⟨_, _, us', hu, hr, rfl⟩
      simp only [Prod.mk.injEq, true_and] at hu
      obtain ⟨rfl, rfl⟩ := hu
      rw [hr]

/-- A list is worked on by its first part and then by its second. -/
theorem eachOf_append_of_ok {s₁ : σ} {us₁ : List τ} (vs : List τ)
    (h : eachOf a ts s = (.ok (), (us₁, s₁))) :
    eachOf a (ts ++ vs) s =
      ((eachOf a vs s₁).1, (us₁ ++ (eachOf a vs s₁).2.1, (eachOf a vs s₁).2.2)) := by
  induction ts generalizing s us₁ with
  | nil => cases h; rfl
  | cons t ts ih =>
    obtain ⟨u, s₂, us₂, hu, hr, rfl⟩ := eachOf_cons_eq_ok.mp h
    rw [List.cons_append, eachOf_cons_of_ok hu, ih hr]
    rfl

theorem eachOf_append_eq_ok {vs : List τ} :
    eachOf a (ts ++ vs) s = (.ok (), (us, s')) ↔ ∃ us₁ s₁ us₂,
      eachOf a ts s = (.ok (), (us₁, s₁)) ∧ eachOf a vs s₁ = (.ok (), (us₂, s')) ∧
        us = us₁ ++ us₂ := by
  induction ts generalizing s us with
  | nil =>
    constructor
    · exact fun h => ⟨[], s, us, rfl, h, rfl⟩
    · rintro ⟨_, _, us₂, h, hvs, rfl⟩
      cases h
      exact hvs
  | cons t ts ih =>
    rw [List.cons_append, eachOf_cons_eq_ok]
    constructor
    · rintro ⟨u, s₂, us', hu, hr, rfl⟩
      obtain ⟨us₁, s₁, us₂, hts, hvs, rfl⟩ := ih.mp hr
      exact ⟨u :: us₁, s₁, us₂, eachOf_cons_eq_ok.mpr ⟨u, s₂, us₁, hu, hts, rfl⟩, hvs, rfl⟩
    · rintro ⟨us₁, s₁, us₂, hts, hvs, rfl⟩
      obtain ⟨u, s₂, us', hu, hr, rfl⟩ := eachOf_cons_eq_ok.mp hts
      exact ⟨u, s₂, us' ++ us₂, hu, ih.mpr ⟨us', s₁, us₂, hr, hvs, rfl⟩, rfl⟩

/-- What has happened when the work gets to a position of the list. -/
theorem eachOf_at (h : eachOf a ts s = (.ok (), (us, s'))) {k : Nat} (hk : ts[k]? = some t) :
    ∃ s₁ u s₂, eachOf a (ts.take k) s = (.ok (), (us.take k, s₁)) ∧
      a (t, s₁) = (.ok (), (u, s₂)) ∧ us[k]? = some u := by
  obtain ⟨hlt, rfl⟩ := List.getElem?_eq_some_iff.mp hk
  rw [← List.take_append_drop k ts, List.drop_eq_getElem_cons hlt] at h
  obtain ⟨us₁, s₁, us₂, hts, hvs, rfl⟩ := eachOf_append_eq_ok.mp h
  obtain ⟨u, s₂, us₃, hu, _, rfl⟩ := eachOf_cons_eq_ok.mp hvs
  have hlen : us₁.length = k := by
    have hl := length_eachOf a (ts.take k) s
    rw [hts, List.length_take, Nat.min_eq_left (Nat.le_of_lt hlt)] at hl
    exact hl
  refine ⟨s₁, u, s₂, ?_, hu, by simp [hlen]⟩
  rw [List.take_append_of_le_length (Nat.le_of_eq hlen.symm), List.take_of_length_le
    (Nat.le_of_eq hlen), hts]

theorem forAll_cons_eq_ok {f : τ → Attempt σ Unit} :
    forAll f (t :: ts) s = (.ok (), s') ↔
      ∃ s₁, f t s = (.ok (), s₁) ∧ forAll f ts s₁ = (.ok (), s') := by
  have hb : forAll f (t :: ts) s = (f t >>= fun _ => forAll f ts) s := rfl
  rw [hb, bind_eq_ok]
  exact ⟨fun ⟨_, s₁, h⟩ => ⟨s₁, h⟩, fun ⟨s₁, h⟩ => ⟨(), s₁, h⟩⟩

end Lists

end Attempt

end TriviaStore
