import TriviaStore.Proofs.Attempt.Failing

/-! # Contracts of attempts

A contract says from which states an attempt is made, which results and states go together when it
succeeds, and which failures there can be. Composite attempts meet the contracts that follow from those
of their parts.
-/

namespace TriviaStore

variable {σ τ α β : Type}

/-- From every state with the property, the attempt gives a result and a state that go together, or
fails with one of the failures. -/
def Attempt.Meets (P : σ → Prop) (a : Attempt σ α) (R : α → σ → Prop) (Q : Failure → Prop) : Prop :=
  ∀ s, P s → match a s with
    | (.ok x, s') => R x s'
    | (.error e, _) => Q e

/-- Both halves of a pair have their property. -/
def Both (J : τ → Prop) (I : σ → Prop) (p : τ × σ) : Prop := J p.1 ∧ I p.2

namespace Attempt

variable {P : σ → Prop} {a : Attempt σ α} {R : α → σ → Prop} {Q : Failure → Prop}

theorem Meets.ok (h : a.Meets P R Q) {s s' : σ} {x : α} (hs : P s) (ha : a s = (.ok x, s')) :
    R x s' := by
  have := h s hs
  rwa [ha] at this

theorem Meets.error (h : a.Meets P R Q) {s s' : σ} {e : Failure} (hs : P s)
    (ha : a s = (.error e, s')) : Q e := by
  have := h s hs
  rwa [ha] at this

theorem meets_of (hok : ∀ {s x s'}, P s → a s = (.ok x, s') → R x s')
    (herror : ∀ {s e s'}, P s → a s = (.error e, s') → Q e) : a.Meets P R Q := by
  intro s hs
  split <;> rename_i h
  · exact hok hs h
  · exact herror hs h

theorem Meets.mono (h : a.Meets P R Q) {P' : σ → Prop} {R' : α → σ → Prop} {Q' : Failure → Prop}
    (hP : ∀ s, P' s → P s) (hR : ∀ x s, R x s → R' x s) (hQ : ∀ e, Q e → Q' e) : a.Meets P' R' Q' :=
  meets_of (fun hs ha => hR _ _ (h.ok (hP _ hs) ha)) fun hs ha => hQ _ (h.error (hP _ hs) ha)

theorem meets_pure (x : α) (h : ∀ s, P s → R x s) : (pure x : Attempt σ α).Meets P R Q := h

theorem meets_fail {e : Failure} (h : Q e) : (fail e : Attempt σ α).Meets P R Q := fun _ _ => h

theorem meets_update {f : σ → σ} {R : Unit → σ → Prop} (h : ∀ s, P s → R () (f s)) :
    (update f).Meets P R Q := h

/-- What goes on in view of the state is told the state. -/
theorem Meets.read_bind {f : σ → Attempt σ β} {R : β → σ → Prop}
    (h : ∀ s, P s → (f s).Meets (· = s) R Q) : (read >>= f).Meets P R Q :=
  fun s hs => h s hs s rfl

theorem Meets.bind {f : α → Attempt σ β} {R' : β → σ → Prop} (ha : a.Meets P R Q)
    (hf : ∀ x, (f x).Meets (R x) R' Q) : (a >>= f).Meets P R' Q := by
  intro s hs
  rcases h : a s with ⟨e | x, s₁⟩
  · rw [bind_of_error h]
    exact ha.error hs h
  · rw [bind_of_ok h]
    exact hf x s₁ (ha.ok hs h)

theorem Meets.wrapping {Q' : Failure → Prop} {m : σ → String} (ha : a.Meets P R Q)
    (h : ∀ f m, Q f → Q' (f.wrappedIn m)) : (a.wrapping m).Meets P R Q' := by
  refine meets_of (fun hs hok => ha.ok hs (wrapping_eq_ok.mp hok)) fun hs herror => ?_
  obtain ⟨f, hf, rfl⟩ := wrapping_eq_error.mp herror
  exact h f _ (ha.error hs hf)

theorem Meets.inContext {Q' : Failure → Prop} {m : σ → String} (ha : a.Meets P R Q)
    (h : ∀ f m, Q f → Q' (f.under m)) : (a.inContext m).Meets P R Q' := by
  refine meets_of (fun hs hok => ha.ok hs (inContext_eq_ok.mp hok)) fun hs herror => ?_
  obtain ⟨f, hf, rfl⟩ := inContext_eq_error.mp herror
  exact h f _ (ha.error hs hf)

theorem Meets.onSecond {J : τ → Prop} (ha : a.Meets P R Q) :
    (a.onSecond : Attempt (τ × σ) α).Meets (Both J P) (fun x => Both J (R x)) Q := by
  refine meets_of ?_ ?_
  · rintro ⟨t, s⟩ x ⟨t', s'⟩ ⟨ht, hs⟩ h
    obtain ⟨hok, rfl⟩ := onSecond_eq_ok.mp h
    exact ⟨ht, ha.ok hs hok⟩
  · rintro ⟨t, s⟩ e ⟨t', s'⟩ ⟨_, hs⟩ h
    exact ha.error hs (onSecond_eq_error.mp h).1

section Lists

variable {J J' : τ → Prop} {I : σ → Prop} {a : Attempt (τ × σ) Unit}

theorem Meets.eachOf_ok (ha : a.Meets (Both J I) (fun _ => Both J' I) Q) {ts us : List τ} {s s' : σ}
    (hts : ∀ t ∈ ts, J t) (hs : I s) (h : eachOf a ts s = (.ok (), (us, s'))) :
    (∀ u ∈ us, J' u) ∧ I s' := by
  induction ts generalizing s us with
  | nil =>
    cases h
    exact ⟨fun _ h => (List.not_mem_nil h).elim, hs⟩
  | cons t ts ih =>
    obtain ⟨u, s₁, us', hu, hr, rfl⟩ := eachOf_cons_eq_ok.mp h
    obtain ⟨hJ, hI⟩ := ha.ok (s := (t, s)) ⟨hts t List.mem_cons_self, hs⟩ hu
    obtain ⟨hJs, hI⟩ := ih (fun v hv => hts v (List.mem_cons_of_mem _ hv)) hI hr
    exact ⟨List.forall_mem_cons.mpr ⟨hJ, hJs⟩, hI⟩

/-- Work on the members of a list meets the contract of the work on a member. -/
theorem Meets.each (ha : a.Meets (Both J I) (fun _ => Both J' I) Q) :
    (each a).Meets (Both (fun ts => ∀ t ∈ ts, J t) I)
      (fun _ => Both (fun ts => ∀ t ∈ ts, J' t) I) Q := by
  refine meets_of ?_ ?_
  · rintro ⟨ts, s⟩ _ ⟨us, s'⟩ ⟨hts, hs⟩ h
    exact ha.eachOf_ok hts hs h
  · rintro ⟨ts, s⟩ e ⟨us, s'⟩ ⟨hts, hs⟩ h
    obtain ⟨front, t, rest, done, s₁, u, rfl, hf, ht, -⟩ := eachOf_eq_error.mp h
    obtain ⟨-, hs₁⟩ := ha.eachOf_ok (fun v hv => hts v (List.mem_append_left _ hv)) hs hf
    exact ha.error (s := (t, s₁)) ⟨hts t (by simp), hs₁⟩ ht

end Lists

theorem Meets.forAll {I : σ → Prop} {f : τ → Attempt σ Unit} {ts : List τ}
    (hf : ∀ t ∈ ts, (f t).Meets I (fun _ => I) Q) : (forAll f ts).Meets I (fun _ => I) Q := by
  induction ts with
  | nil => exact meets_pure () fun _ hs => hs
  | cons t ts ih =>
    exact Meets.bind (hf t List.mem_cons_self) fun _ =>
      ih fun u hu => hf u (List.mem_cons_of_mem _ hu)

theorem Meets.collect {I : σ → Prop} {f : τ → Attempt σ α} {ts : List τ}
    (hf : ∀ t ∈ ts, (f t).Meets I (fun _ => I) Q) : (collect f ts).Meets I (fun _ => I) Q := by
  induction ts with
  | nil => exact meets_pure [] fun _ hs => hs
  | cons t ts ih =>
    refine Meets.bind (hf t List.mem_cons_self) fun a => Meets.bind (R := fun _ => I) ?_ fun as =>
      meets_pure (a :: as) fun _ hs => hs
    exact ih fun u hu => hf u (List.mem_cons_of_mem _ hu)

end Attempt

end TriviaStore
