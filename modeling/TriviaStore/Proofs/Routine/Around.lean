import TriviaStore.Proofs.Attempt.Failing
import TriviaStore.Proofs.Attempt.Keeps
import TriviaStore.Routine

/-! # Work while a routine pauses

Work that is done while a routine pauses succeeds if the routine gets to its pause, the work succeeds and
the routine gets to its end. It fails with what comes out of the routine, or with what the work itself
fails with once the routine has been aborted.
-/

namespace TriviaStore

variable {σ α : Type}

namespace Attempt

variable {a : Attempt σ α} {x : α} {s s' : σ} {e : Failure}

theorem escaping_eq_ok : a.escaping s = (.ok x, s') ↔ a s = (.ok x, s') := mapFailure_eq_ok

theorem escaping_eq_error : a.escaping s = (.error e, s') ↔ ∃ f, a s = (.error f, s') ∧ e = f.escape :=
  mapFailure_eq_error

theorem escaping_of_error (h : a s = (.error e, s')) : a.escaping s = (.error e.escape, s') :=
  escaping_eq_error.mpr ⟨e, h, rfl⟩

theorem caught_run (a : Attempt σ α) (s : σ) : a.caught s = (.ok (a s).1, (a s).2) := rfl

theorem Keeps.escaping {P : σ → Prop} (ha : a.Keeps P) : a.escaping.Keeps P := ha.mapFailure

end Attempt

namespace Routine

open Attempt

variable {routine : Routine σ} {work : Attempt σ α} {s s' s₁ s₂ : σ} {a : α} {d e : Failure}

theorem around_of_notEntered (h : routine.enter s = (.error e, s')) :
    routine.around work s = (.error e.escape, s') :=
  bind_of_error (escaping_of_error h)

theorem around_of_done (henter : routine.enter s = (.ok (), s₁)) (hwork : work s₁ = (.ok a, s₂)) :
    routine.around work s = (routine.leave.escaping >>= fun _ => pure a) s₂ := by
  unfold around
  rw [bind_of_ok (escaping_eq_ok.mpr henter), bind_of_ok (caught_run work s₁), hwork]

theorem around_of_failed (henter : routine.enter s = (.ok (), s₁)) (hwork : work s₁ = (.error e, s₂)) :
    routine.around work s = (routine.abort.escaping >>= fun _ => fail e) s₂ := by
  unfold around
  rw [bind_of_ok (escaping_eq_ok.mpr henter), bind_of_ok (caught_run work s₁), hwork]

theorem around_eq_ok : routine.around work s = (.ok a, s') ↔ ∃ s₁ s₂, routine.enter s = (.ok (), s₁) ∧
    work s₁ = (.ok a, s₂) ∧ routine.leave s₂ = (.ok (), s') := by
  rcases henter : routine.enter s with ⟨e | _, s₁⟩
  · rw [around_of_notEntered henter]
    simp
  rcases hwork : work s₁ with ⟨e | x, s₂⟩
  · rw [around_of_failed henter hwork, bind_eq_ok]
    simp [fail_run, hwork]
  · rw [around_of_done henter hwork, bind_eq_ok]
    constructor
    · rintro ⟨_, _, hleave, h⟩
      cases h
      exact ⟨s₁, s₂, rfl, hwork, escaping_eq_ok.mp hleave⟩
    · rintro ⟨_, _, h, hw, hleave⟩
      cases h
      cases hwork.symm.trans hw
      exact ⟨(), s', escaping_eq_ok.mpr hleave, rfl⟩

/-- What a failure around a pause comes from. -/
inductive FailsAround (routine : Routine σ) (work : Attempt σ α) (s : σ) : Failure → σ → Prop
  | entering {e : Failure} {s' : σ} (enter : routine.enter s = (.error e, s')) :
      FailsAround routine work s e.escape s'
  | leaving {a : α} {e : Failure} {s₁ s₂ s' : σ} (enter : routine.enter s = (.ok (), s₁))
      (done : work s₁ = (.ok a, s₂)) (leave : routine.leave s₂ = (.error e, s')) :
      FailsAround routine work s e.escape s'
  | working {e : Failure} {s₁ s₂ s' : σ} (enter : routine.enter s = (.ok (), s₁))
      (failed : work s₁ = (.error e, s₂)) (abort : routine.abort s₂ = (.ok (), s')) :
      FailsAround routine work s e s'
  | aborting {d e : Failure} {s₁ s₂ s' : σ} (enter : routine.enter s = (.ok (), s₁))
      (failed : work s₁ = (.error d, s₂)) (abort : routine.abort s₂ = (.error e, s')) :
      FailsAround routine work s e.escape s'

theorem around_eq_error :
    routine.around work s = (.error e, s') ↔ routine.FailsAround work s e s' := by
  constructor
  · intro h
    rcases henter : routine.enter s with ⟨f | _, s₁⟩
    · cases (around_of_notEntered henter).symm.trans h
      exact .entering henter
    rcases hwork : work s₁ with ⟨d | a, s₂⟩
    · rw [around_of_failed henter hwork] at h
      rcases bind_eq_error.mp h with h | ⟨_, s₃, habort, h⟩
      · obtain ⟨f, habort, rfl⟩ := escaping_eq_error.mp h
        exact .aborting henter hwork habort
      · cases h
        exact .working henter hwork (escaping_eq_ok.mp habort)
    · rw [around_of_done henter hwork] at h
      rcases bind_eq_error.mp h with h | ⟨_, _, _, h⟩
      · obtain ⟨f, hleave, rfl⟩ := escaping_eq_error.mp h
        exact .leaving henter hwork hleave
      · cases h
  · intro h
    cases h with
    | entering enter => exact around_of_notEntered enter
    | leaving enter done leave =>
      exact (around_of_done enter done).trans (bind_of_error (escaping_of_error leave))
    | working enter failed abort =>
      exact (around_of_failed enter failed).trans (bind_of_ok (escaping_eq_ok.mpr abort))
    | aborting enter failed abort =>
      exact (around_of_failed enter failed).trans (bind_of_error (escaping_of_error abort))

end Routine

/-! ## First and last -/

namespace Attempt

variable {β : Type} {a : Attempt σ α} {last : Attempt σ Unit} {s s' : σ} {e : Failure}

theorem escaping_bind (a : Attempt σ α) (f : α → Attempt σ β) :
    (a >>= f).escaping = a.escaping >>= fun x => (f x).escaping := by
  funext s
  rcases ha : a s with ⟨e | x, s₁⟩
  · rw [bind_of_error (escaping_of_error ha), escaping_of_error (bind_of_error ha)]
  · rw [bind_of_ok (escaping_eq_ok.mpr ha)]
    unfold escaping mapFailure
    rw [bind_of_ok ha]

theorem ensuring_of_ok {r : Except Failure α} {s₁ : σ} (ha : a s = (r, s₁))
    (h : last s₁ = (.ok (), s')) : a.ensuring last s = (r, s') := by
  unfold ensuring
  simp only [ha, h]

theorem ensuring_of_error {r : Except Failure α} {s₁ : σ} (ha : a s = (r, s₁))
    (h : last s₁ = (.error e, s')) : a.ensuring last s = (.error e, s') := by
  unfold ensuring
  simp only [ha, h]

theorem ensuring_congr {a' : Attempt σ α} {s₁ : σ} (h : a s = a' s₁) :
    a.ensuring last s = a'.ensuring last s₁ := by
  unfold ensuring
  rw [h]

/-- What is done last can be done inside of a routine or outside, once it is settled what comes out. -/
theorem ensuring_escaping_bind {b : Attempt σ Unit} {g : Attempt σ α} {r : Except Failure α}
    (hg : ∀ s, g s = (r, s)) : ((b.ensuring last).escaping >>= fun _ => g) =
      (b.escaping >>= fun _ => g).ensuring last.escaping := by
  funext s
  rcases hb : b s with ⟨e | _, s₁⟩
  · have hfailed : (b.escaping >>= fun _ => g) s = (.error e.escape, s₁) :=
      bind_of_error (escaping_of_error hb)
    rcases hl : last s₁ with ⟨d | _, s₂⟩
    · rw [ensuring_of_error hfailed (escaping_of_error hl),
        bind_of_error (escaping_of_error (ensuring_of_error hb hl))]
    · rw [ensuring_of_ok hfailed (escaping_eq_ok.mpr hl),
        bind_of_error (escaping_of_error (ensuring_of_ok hb hl))]
  · have hdone : (b.escaping >>= fun _ => g) s = (r, s₁) :=
      (bind_of_ok (escaping_eq_ok.mpr hb)).trans (hg s₁)
    rcases hl : last s₁ with ⟨d | _, s₂⟩
    · rw [ensuring_of_error hdone (escaping_of_error hl),
        bind_of_error (escaping_of_error (ensuring_of_error hb hl))]
    · rw [ensuring_of_ok hdone (escaping_eq_ok.mpr hl),
        bind_of_ok (escaping_eq_ok.mpr (ensuring_of_ok hb hl)), hg]

theorem ensuringOnFailure_of_ok {x : α} (h : a s = (.ok x, s')) :
    a.ensuringOnFailure last s = (.ok x, s') := by
  unfold ensuringOnFailure
  rw [h]

theorem ensuringOnFailure_of_error (h : a s = (.error e, s')) :
    a.ensuringOnFailure last s = a.ensuring last s := by
  unfold ensuringOnFailure ensuring
  rw [h]
  rfl

end Attempt

namespace Routine

open Attempt

variable {routine : Routine σ} {work : Attempt σ α}

theorem around_after (first : Attempt σ Unit) : (routine.after first).around work =
    first.escaping >>= fun _ => routine.around work := by
  unfold around after
  rw [escaping_bind, bind_assoc]

/-- What a routine does last is done after the work, and fails as the routine does. -/
theorem around_ensuring (last : Attempt σ Unit) : (routine.ensuring last).around work =
    (routine.around work).ensuring last.escaping := by
  funext s
  rcases henter : routine.enter s with ⟨e | _, s₁⟩
  · have hfailed : routine.around work s = (.error e.escape, s₁) := around_of_notEntered henter
    have hopening : (routine.ensuring last).enter s = routine.enter.ensuring last s :=
      ensuringOnFailure_of_error henter
    rcases hl : last s₁ with ⟨d | _, s₂⟩
    · rw [ensuring_of_error hfailed (escaping_of_error hl)]
      exact around_of_notEntered (hopening.trans (ensuring_of_error henter hl))
    · rw [ensuring_of_ok hfailed (escaping_eq_ok.mpr hl)]
      exact around_of_notEntered (hopening.trans (ensuring_of_ok henter hl))
  have hentered : (routine.ensuring last).enter s = (.ok (), s₁) := ensuringOnFailure_of_ok henter
  rcases hwork : work s₁ with ⟨e | a, s₂⟩
  · rw [around_of_failed hentered hwork, ensuring_congr (around_of_failed henter hwork)]
    exact congrFun (ensuring_escaping_bind (fail_run e)) s₂
  · rw [around_of_done hentered hwork, ensuring_congr (around_of_done henter hwork)]
    exact congrFun (ensuring_escaping_bind fun _ => rfl) s₂

end Routine

/-! ## What is kept -/

namespace Attempt

variable {P : σ → Prop} {routine : Routine σ} {work : Attempt σ α}

theorem Keeps.ensuring {last : Attempt σ Unit} (hwork : work.Keeps P) (hlast : last.Keeps P) :
    (work.ensuring last).Keeps P := by
  intro s hs
  rcases hw : work s with ⟨r, s₁⟩
  have hdone := hwork.run hs hw
  rcases hl : last s₁ with ⟨e | _, s₂⟩
  · rw [ensuring_of_error hw hl]
    exact hlast.run hdone hl
  · rw [ensuring_of_ok hw hl]
    exact hlast.run hdone hl

theorem KeepsOnFailure.around (henter : routine.enter.Keeps P) (hleave : routine.leave.KeepsOnFailure P)
    (habort : routine.abort.Keeps P) (hwork : work.Keeps P) :
    (routine.around work).KeepsOnFailure P := by
  intro s e s' hs h
  cases Routine.around_eq_error.mp h with
  | entering enter => exact henter.run hs enter
  | leaving enter done leave => exact hleave _ _ _ (hwork.run (henter.run hs enter) done) leave
  | working enter failed abort | aborting enter failed abort =>
    exact habort.run (hwork.run (henter.run hs enter) failed) abort

theorem Keeps.around (henter : routine.enter.Keeps P) (hleave : routine.leave.Keeps P)
    (habort : routine.abort.Keeps P) (hwork : work.Keeps P) : (routine.around work).Keeps P := by
  refine Keeps.bind henter.escaping fun _ s hs => ?_
  have hdone := hwork s hs
  rw [bind_of_ok (caught_run work s)]
  rcases hw : work s with ⟨d | a, s₁⟩ <;> rw [hw] at hdone
  · exact Keeps.bind habort.escaping (fun _ => keeps_fail d) s₁ hdone
  · exact Keeps.bind hleave.escaping (fun _ => keeps_pure a) s₁ hdone

end Attempt

end TriviaStore
