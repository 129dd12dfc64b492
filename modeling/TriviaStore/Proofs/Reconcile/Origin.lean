import TriviaStore.Proofs.Attempt.Failing
import TriviaStore.Proofs.Reconcile.Success

/-! # Where reconciliations fail

A reconciliation fails by itself, when it lists the ids under the parent, writes a child's own row or
discards a row, or it fails below a child that it has written. A failure of its own is told in the words
of the call that failed and in no others; a failure from below is told with the child it comes from.
-/

namespace TriviaStore.Reconciler

open Attempt

variable {σ C : Type} (t : Reconciler σ C) {p i : Int} {parent : Option Int} {e : Failure}

/-- The child's own row is written. What is below the child comes next. -/
inductive Writes (parent : Option Int) (x : C × σ) : C × σ → Prop
  | created {y z : C × σ} (new : t.id x.1 = 0) (ready : t.reset x = (.ok (), y))
      (create : t.create y = (.ok (), z)) :
      Writes parent x (z.1, t.note (.childCreated t.kind (t.id z.1)) z.2)
  | updated {n : Nat} {z : C × σ} (old : t.id x.1 ≠ 0) (update : t.update parent x = (.ok n, z))
      (found : n ≠ 0) : Writes parent x (z.1, t.note (.childUpdated t.kind (t.id z.1)) z.2)

/-- Writing the child's own row fails. -/
inductive WriteFails (parent : Option Int) (x : C × σ) : Failure → C × σ → Prop
  | resetting {f : Failure} {z : C × σ} (new : t.id x.1 = 0) (reset : t.reset x = (.error f, z)) :
      WriteFails parent x f z
  | creating {f : Failure} {y z : C × σ} (new : t.id x.1 = 0) (ready : t.reset x = (.ok (), y))
      (create : t.create y = (.error f, z)) : WriteFails parent x
        (f.wrappedIn s!"failed to create {t.kind} under {t.parentKind} {t.parent z.1}") z
  | updating {f : Failure} {z : C × σ} (old : t.id x.1 ≠ 0)
      (update : t.update parent x = (.error f, z)) : WriteFails parent x
        (f.wrappedIn s!"failed to update {t.kind} {t.id z.1} under {t.parentKind} {t.parent z.1}") z
  | missing {z : C × σ} (old : t.id x.1 ≠ 0) (update : t.update parent x = (.ok 0, z)) :
      WriteFails parent x (.store (.missed t.notUpdated (t.id x.1))) z

/-- Deleting a row fails. -/
inductive DiscardFails (p i : Int) (s : σ) : Failure → σ → Prop
  | deleting {f : Failure} {s' : σ} (delete : t.delete i s = (.error f, s')) : DiscardFails p i s
      (f.wrappedIn s!"failed to delete {t.kind} {i} under {t.parentKind} {p}") s'
  | missing {s' : σ} (delete : t.delete i s = (.ok 0, s')) :
      DiscardFails p i s (.store (.missed t.notDeleted i)) s'

variable {t} in
/-- An upsert that succeeds has written the child's own row and gone on below it. -/
theorem writes_of_upsert {x y : C × σ} (h : t.upsert parent x = (.ok (), y)) :
    ∃ z, t.Writes parent x z ∧ t.descend z = (.ok (), y) := by
  rcases upsert_eq_ok.mp h with ⟨new, w, z, ready, create, hd⟩ | ⟨old, n, z, found, update, hd⟩
  · exact ⟨_, .created new ready create, hd⟩
  · exact ⟨_, .updated old update found, hd⟩

theorem upsert_error {x y : C × σ} (h : t.upsert parent x = (.error e, y)) :
    t.WriteFails parent x e y ∨ ∃ z f, t.Writes parent x z ∧ t.descend z = (.error f, y) ∧
      e = f.under s!"error upserting {t.kind} {t.id y.1}" := by
  unfold Reconciler.upsert at h
  rw [bind_of_ok (read_run _)] at h
  dsimp only at h
  split at h
  · rename_i new
    rcases bind_eq_error.mp h with hr | ⟨_, z, hr, h⟩
    · exact .inl (.resetting new hr)
    rcases bind_eq_error.mp h with hc | ⟨_, w, hc, h⟩
    · obtain ⟨f, hf, rfl⟩ := wrapping_eq_error.mp hc
      exact .inl (.creating new hr hf)
    rw [bind_of_ok (update_run _ _)] at h
    obtain ⟨f, hd, rfl⟩ := inContext_eq_error.mp h
    exact .inr ⟨_, f, .created new hr (wrapping_eq_ok.mp hc), hd, rfl⟩
  · rename_i old
    rcases bind_eq_error.mp h with hu | ⟨n, z, hu, h⟩
    · obtain ⟨f, hf, rfl⟩ := wrapping_eq_error.mp hu
      exact .inl (.updating old hf)
    have hu := wrapping_eq_ok.mp hu
    split at h
    · rename_i hn
      cases h
      exact .inl (.missing old (hn ▸ hu))
    · rename_i hn
      rw [bind_of_ok (update_run _ _)] at h
      obtain ⟨f, hd, rfl⟩ := inContext_eq_error.mp h
      exact .inr ⟨_, f, .updated old hu hn, hd, rfl⟩

theorem upsert_of_writeFails {x y : C × σ} (h : t.WriteFails parent x e y) :
    t.upsert parent x = (.error e, y) := by
  unfold Reconciler.upsert
  rw [bind_of_ok (read_run _)]
  cases h with
  | resetting new reset => simp only [new, if_true, bind_of_error reset]
  | creating new ready create =>
    simp only [new, if_true, bind_of_ok ready]
    exact bind_of_error (wrapping_eq_error.mpr ⟨_, create, rfl⟩)
  | updating old update =>
    simp only [old, if_false]
    exact bind_of_error (wrapping_eq_error.mpr ⟨_, update, rfl⟩)
  | missing old update =>
    simp only [old, if_false, bind_of_ok (wrapping_eq_ok.mpr update)]
    rfl

theorem upsert_of_writes {x z y : C × σ} {f : Failure} (hw : t.Writes parent x z)
    (hd : t.descend z = (.error f, y)) :
    t.upsert parent x = (.error (f.under s!"error upserting {t.kind} {t.id y.1}"), y) := by
  unfold Reconciler.upsert
  rw [bind_of_ok (read_run _)]
  cases hw with
  | created new ready create =>
    simp only [new, if_true, bind_of_ok ready, bind_of_ok (wrapping_eq_ok.mpr create),
      bind_of_ok (update_run _ _)]
    exact inContext_eq_error.mpr ⟨f, hd, rfl⟩
  | updated old update found =>
    simp only [old, if_false, bind_of_ok (wrapping_eq_ok.mpr update), found,
      bind_of_ok (update_run _ _)]
    exact inContext_eq_error.mpr ⟨f, hd, rfl⟩

/-- An upsert fails where the child's own row is written or below the child. -/
theorem upsert_eq_error {x y : C × σ} : t.upsert parent x = (.error e, y) ↔
    t.WriteFails parent x e y ∨ ∃ z f, t.Writes parent x z ∧ t.descend z = (.error f, y) ∧
      e = f.under s!"error upserting {t.kind} {t.id y.1}" := by
  constructor
  · exact t.upsert_error
  · rintro (h | ⟨z, f, hw, hd, rfl⟩)
    · exact t.upsert_of_writeFails h
    · exact t.upsert_of_writes hw hd

theorem place_eq_upsert (c : C) (s : σ) :
    t.place p (c, s) = t.upsert (some p) (t.attach p c, s) := by
  unfold Reconciler.place
  rw [bind_of_ok (update_run _ _)]

variable {t} in
/-- A child whose update matches no row is reported as missing. -/
theorem place_missed {c c' : C} {s s' : σ} (hc : t.id (t.attach p c) ≠ 0)
    (hu : t.update (some p) (t.attach p c, s) = (.ok 0, (c', s'))) :
    t.place p (c, s) = (.error (.store (.missed t.notUpdated (t.id (t.attach p c)))), (c', s')) := by
  rw [place_eq_upsert]
  exact t.upsert_of_writeFails (.missing hc hu)

variable {t} in
/-- An error from below a child that was updated names the child. -/
theorem place_below {c : C} {s : σ} {n : Nat} {d : StoreError} {z y : C × σ}
    (hc : t.id (t.attach p c) ≠ 0) (hn : n ≠ 0)
    (hu : t.update (some p) (t.attach p c, s) = (.ok n, z))
    (hd : t.descend (z.1, t.note (.childUpdated t.kind (t.id z.1)) z.2) = (.error (.store d), y)) :
    t.place p (c, s) =
      (.error (.store (d.addContext s!"error upserting {t.kind} {t.id y.1}")), y) := by
  rw [place_eq_upsert]
  exact t.upsert_of_writes (.updated hc hu hn) hd

theorem discard_eq_error {s s' : σ} :
    t.discard p i s = (.error e, s') ↔ t.DiscardFails p i s e s' := by
  unfold Reconciler.discard
  constructor
  · intro h
    rcases bind_eq_error.mp h with hd | ⟨n, s₁, hd, h⟩
    · obtain ⟨f, hf, rfl⟩ := wrapping_eq_error.mp hd
      exact .deleting hf
    · split at h
      · rename_i hn
        cases h
        exact .missing (hn ▸ wrapping_eq_ok.mp hd)
      · cases h
  · rintro (delete | delete)
    · exact bind_of_error (wrapping_eq_error.mpr ⟨_, delete, rfl⟩)
    · rw [bind_of_ok (wrapping_eq_ok.mpr delete)]
      rfl

/-! ## Whole reconciliations -/

/-- A reconciliation gets to a child: the ids under the parent have been listed, and the children in
front of it have been placed. -/
structure Reaches (p : Int) (cs : List C) (s : σ) (done : List C) (c : C) (rest : List C) (s' : σ) :
    Prop where
  intro ::
  placed : ∃ front ids s₁, cs = front ++ c :: rest ∧ t.existing p s = (.ok ids, s₁) ∧
    eachOf (t.place p) front s₁ = (.ok (), (done, s'))

/-- A reconciliation fails by itself. -/
inductive FailsItself (p : Int) : List C × σ → Failure → List C × σ → Prop
  | listing {cs : List C} {f : Failure} {s s' : σ} (existing : t.existing p s = (.error f, s')) :
      FailsItself p (cs, s)
        (f.wrappedIn s!"failed to list existing {t.kind} ids for {t.parentKind} {p}") (cs, s')
  | writing {cs done rest : List C} {c c' : C} {s s₁ s₂ : σ} {f : Failure}
      (reaches : t.Reaches p cs s done c rest s₁)
      (fails : t.WriteFails (some p) (t.attach p c, s₁) f (c', s₂)) :
      FailsItself p (cs, s) f (done ++ c' :: rest, s₂)
  | discarding {cs cs' : List C} {ids front rest : List Int} {i : Int} {s s₁ s₂ s₃ s₄ : σ} {f : Failure}
      (existing : t.existing p s = (.ok ids, s₁))
      (placed : Attempt.each (t.place p) (cs, s₁) = (.ok (), (cs', s₂)))
      (stale : staleIds ids (t.kept cs) = front ++ i :: rest)
      (discarded : forAll (t.discard p) front s₂ = (.ok (), s₃)) (fails : t.DiscardFails p i s₃ f s₄) :
      FailsItself p (cs, s) f (cs', s₄)

/-- A reconciliation fails below a child that it has written, `z` being the child at that moment. -/
inductive FailsBelow (p : Int) (z : C × σ) (f : Failure) (c' : C) : List C × σ → List C × σ → Prop
  | intro {cs done rest : List C} {c : C} {s s₁ s₂ : σ} (reaches : t.Reaches p cs s done c rest s₁)
      (writes : t.Writes (some p) (t.attach p c, s₁) z) (descend : t.descend z = (.error f, (c', s₂))) :
      FailsBelow p z f c' (cs, s) (done ++ c' :: rest, s₂)

variable {t} in
/-- The child is left where it fails, and nothing happens after that. -/
theorem FailsBelow.descend {x y : List C × σ} {z : C × σ} {f : Failure} {c' : C}
    (h : t.FailsBelow p z f c' x y) : t.descend z = (.error f, (c', y.2)) ∧ c' ∈ y.1 := by
  cases h with
  | intro _ _ descend => exact ⟨descend, List.mem_append_right _ List.mem_cons_self⟩

theorem reconcile_error_cases {x y : List C × σ} (h : t.reconcile p x = (.error e, y)) :
    t.FailsItself p x e y ∨ ∃ z f u, t.FailsBelow p z f u x y ∧
      e = f.under s!"error upserting {t.kind} {t.id u}" := by
  obtain ⟨cs, s⟩ := x
  obtain ⟨cs', s'⟩ := y
  unfold Reconciler.reconcile at h
  rcases bind_eq_error.mp h with he | ⟨ids, ⟨us, s₁⟩, he, hrest⟩
  · obtain ⟨f, hf, rfl⟩ := wrapping_eq_error.mp he
    obtain ⟨failed, hcs⟩ := onSecond_eq_error.mp hf
    subst hcs
    exact .inl (.listing failed)
  obtain ⟨listed, hus⟩ := onSecond_eq_ok.mp (wrapping_eq_ok.mp he)
  subst hus
  rw [bind_of_ok (read_run _)] at hrest
  dsimp only at hrest
  rcases bind_eq_error.mp hrest with hp | ⟨_, ⟨vs, s₂⟩, hp, hstale⟩
  · obtain ⟨front, c, rest, done, s₂, c', hcs, hf, hc, hcs'⟩ := eachOf_eq_error.mp hp
    have reaches : t.Reaches p us s done c rest s₂ := ⟨front, ids, s₁, hcs, listed, hf⟩
    subst hcs'
    rw [place_eq_upsert] at hc
    rcases t.upsert_eq_error.mp hc with hw | ⟨z, f, hw, hd, rfl⟩
    · exact .inl (.writing reaches hw)
    · exact .inr ⟨z, f, c', ⟨reaches, hw, hd⟩, rfl⟩
  · rcases bind_eq_error.mp hstale with hd | ⟨_, _, _, hdone⟩
    · obtain ⟨failed, hvs⟩ := onSecond_eq_error.mp hd
      subst hvs
      obtain ⟨front, i, rest, s₃, hst, hf, hi⟩ := forAll_eq_error.mp failed
      exact .inl (.discarding listed hp hst hf (t.discard_eq_error.mp hi))
    · cases hdone

variable {t} in
/-- A reconciliation fails when placing a child does. -/
theorem reconcile_error {cs us : List C} {s s₁ s₂ : σ} {existing : List Int} {e : Failure}
    (he : t.existing p s = (.ok existing, s₁))
    (hp : eachOf (t.place p) cs s₁ = (.error e, (us, s₂))) :
    t.reconcile p (cs, s) = (.error e, (us, s₂)) := by
  unfold Reconciler.reconcile
  rw [bind_of_ok (wrapping_eq_ok.mpr (onSecond_eq_ok.mpr ⟨he, rfl⟩)), bind_of_ok (read_run _)]
  exact bind_of_error hp

theorem reconcile_of_place_error {cs done rest : List C} {c c' : C} {s s₁ s₂ : σ}
    (reaches : t.Reaches p cs s done c rest s₁) (fails : t.place p (c, s₁) = (.error e, (c', s₂))) :
    t.reconcile p (cs, s) = (.error e, (done ++ c' :: rest, s₂)) := by
  obtain ⟨front, ids, s₀, rfl, he, hf⟩ := reaches
  exact reconcile_error he (eachOf_eq_error.mpr ⟨front, c, rest, done, s₁, c', rfl, hf, fails, rfl⟩)

theorem reconcile_of_failsItself {x y : List C × σ} (h : t.FailsItself p x e y) :
    t.reconcile p x = (.error e, y) := by
  cases h with
  | listing existing =>
    exact bind_of_error (wrapping_eq_error.mpr ⟨_, onSecond_eq_error.mpr ⟨existing, rfl⟩, rfl⟩)
  | writing reaches fails =>
    refine t.reconcile_of_place_error reaches ?_
    rw [place_eq_upsert]
    exact t.upsert_of_writeFails fails
  | discarding existing placed stale discarded fails =>
    unfold Reconciler.reconcile
    rw [bind_of_ok (wrapping_eq_ok.mpr (onSecond_eq_ok.mpr ⟨existing, rfl⟩)),
      bind_of_ok (read_run _)]
    dsimp only
    rw [bind_of_ok placed, stale]
    exact bind_of_error (onSecond_eq_error.mpr
      ⟨forAll_eq_error.mpr ⟨_, _, _, _, rfl, discarded, t.discard_eq_error.mpr fails⟩, rfl⟩)

theorem reconcile_of_failsBelow {x y : List C × σ} {z : C × σ} {f : Failure} {u : C}
    (h : t.FailsBelow p z f u x y) :
    t.reconcile p x = (.error (f.under s!"error upserting {t.kind} {t.id u}"), y) := by
  cases h with
  | intro reaches writes descend =>
    have upserted := t.upsert_of_writes writes descend
    rw [← place_eq_upsert] at upserted
    exact t.reconcile_of_place_error reaches upserted

/-- A reconciliation fails by itself, in the words of the call that failed, or below a child, and then
the child it comes from is told as well. -/
theorem reconcile_eq_error {x y : List C × σ} : t.reconcile p x = (.error e, y) ↔
    t.FailsItself p x e y ∨ ∃ z f u, t.FailsBelow p z f u x y ∧
      e = f.under s!"error upserting {t.kind} {t.id u}" := by
  constructor
  · exact t.reconcile_error_cases
  · rintro (h | ⟨z, f, c', h, rfl⟩)
    · exact t.reconcile_of_failsItself h
    · exact t.reconcile_of_failsBelow h

/-- What holds after every call of a table holds where a reconciliation of it has failed by itself. -/
theorem FailsItself.after {P : σ → Prop}
    (existing : ∀ {p s r s'}, t.existing p s = (r, s') → P s')
    (reset : ∀ {x f y}, t.reset x = (.error f, y) → P y.2)
    (create : ∀ {x r y}, t.create x = (r, y) → P y.2)
    (update : ∀ {p x r y}, t.update (some p) x = (r, y) → P y.2)
    (delete : ∀ {i s r s'}, t.delete i s = (r, s') → P s')
    {x y : List C × σ} (h : t.FailsItself p x e y) : P y.2 := by
  cases h with
  | listing listed => exact existing listed
  | writing _ fails =>
    cases fails with
    | resetting _ failed => exact reset failed
    | creating _ _ failed => exact create failed
    | updating _ failed => exact update failed
    | missing _ missed => exact update missed
  | discarding _ _ _ _ fails =>
    cases fails with
    | deleting failed => exact delete failed
    | missing missed => exact delete missed

end TriviaStore.Reconciler
