import TriviaStore.Proofs.Connection.Deletions
import TriviaStore.Proofs.Reconcile.Keeps
import TriviaStore.Proofs.Reconcile.View

/-! # Deleting what is left over

What is left over is found in the ids that were listed before any child was placed. A row that is left
over is nevertheless still there when it comes to be deleted: placing the children sets no row that none
of them carries, and every id is left over once. So a reconciliation that nothing disturbs does not fail
for want of a row to delete.
-/

namespace TriviaStore

open Attempt

/-- Errors of this kind are told only if a call is disturbed. -/
def StoreError.Kind.isDisturbed : StoreError.Kind → Bool
  | .missed .deletingQuestion _ => true
  | .missed .deletingChoice _ => true
  | .transaction => true
  | _ => false

def Failure.isDisturbed : Failure → Bool
  | .store e => e.kind.isDisturbed
  | _ => false

@[simp] theorem Failure.isDisturbed_wrappedIn (f : Failure) (m : String) :
    (f.wrappedIn m).isDisturbed = f.isDisturbed := by
  cases f <;> rfl

@[simp] theorem Failure.isDisturbed_under (f : Failure) (m : String) :
    (f.under m).isDisturbed = f.isDisturbed := by
  cases f <;> rfl

namespace Reconciler

variable {σ C Row : Type} (t : Reconciler σ C) {p i : Int} {parent : Option Int} {cs : List C}
  {s s' : σ} {P : σ → Prop}

/-- A reconciliation gets to deleting an id: the ids under the parent have been listed, all children have
been placed, the id has been found to be left over, and what is left over before it has been deleted. -/
structure Deletes (p : Int) (cs : List C) (s : σ) (i : Int) (s' : σ) : Prop where
  intro ::
  reached : ∃ ids s₁ cs' s₂ front rest, t.existing p s = (.ok ids, s₁) ∧
    eachOf (t.place p) cs s₁ = (.ok (), (cs', s₂)) ∧ staleIds ids (t.kept cs) = front ++ i :: rest ∧
    forAll (t.discard p) front s₂ = (.ok (), s')

variable {t}

/-- What is left over is still there when it is deleted. -/
theorem View.deletes (v : t.View Row) (hs : v.Inv s) (h : t.Deletes p cs s i s') :
    v.Inv s' ∧ ∃ r, v.rows s' i = some r ∧ v.owner r = p := by
  obtain ⟨ids, s₁, cs', s₂, front, rest, hexisting, hplace, hstale, hfront⟩ := h
  obtain ⟨hs₁, hrows, hids⟩ := v.existing hs hexisting
  have hall := v.eachOf_place hs₁ hplace
  obtain ⟨hs', hgone⟩ := v.forAll_discard hall.inv hfront
  have hids₁ : ∀ i, i ∈ ids ↔ ∃ r, v.rows s₁ i = some r ∧ v.owner r = p := by rwa [hrows]
  have hi : i ∈ staleIds ids (t.kept cs) := by
    rw [hstale]
    exact List.mem_append_right front List.mem_cons_self
  -- Every id is left over once, so it is not among those in front of it.
  have hnew : i ∉ front := by
    have hascending := pairwise_staleIds ids (t.kept cs)
    rw [hstale, List.pairwise_append] at hascending
    exact fun hmem => Int.lt_irrefl i (hascending.2.2 i hmem i List.mem_cons_self)
  refine ⟨hs', ?_⟩
  rw [hgone, if_neg hnew]
  exact hall.stored_of_stale hids₁ hi

/-! ## States on the way -/

theorem Keeps.writes (h : t.Keeps P) {x z : C × σ} (hw : t.Writes parent x z) (hx : P x.2) :
    P z.2 := by
  cases hw with
  | @created y z new ready create =>
    have hreset := h.reset x hx
    rw [ready] at hreset
    have hcreate := h.create y hreset
    rw [create] at hcreate
    exact h.note _ _ hcreate
  | updated old update found =>
    have hupdate := h.update parent x hx
    rw [update] at hupdate
    exact h.note _ _ hupdate

theorem Keeps.reaches (h : t.Keeps P) {done rest : List C} {c : C}
    (hr : t.Reaches p cs s done c rest s') (hs : P s) : P s' := by
  obtain ⟨front, ids, s₁, -, hexisting, hplace⟩ := hr
  have hlisted := h.existing p s hs
  rw [hexisting] at hlisted
  have hplaced := (h.place p).eachOf front hlisted
  rwa [hplace] at hplaced

/-! ## Deletions among the statements -/

/-- Of the statements that the calls on a table add, only deletions delete, and these issue just one. -/
structure Logs (t : Reconciler σ C) (log : σ → List Statement) (table : Table) : Prop where
  existing {p : Int} {s : σ} {D} : (t.existing p).Accounts log s D
  reset {x : C × σ} {D} : t.reset.Accounts (Behind log) x D
  create {x : C × σ} {D} : t.create.Accounts (Behind log) x D
  update {parent : Option Int} {x : C × σ} {D} : (t.update parent).Accounts (Behind log) x D
  delete (i : Int) (s : σ) : log (t.delete i s).2 = log s ++ [.delete table]
  note (e : Event) (s : σ) : log (t.note e s) = log s

namespace Logs

variable {log : σ → List Statement} {table : Table} {D : List Statement → Table → Prop}

/-- An upsert deletes only below the child. -/
theorem upsert (h : t.Logs log table) {x : C × σ}
    (below : ∀ z, t.Writes parent x z → t.descend.Accounts (Behind log) z D) :
    (t.upsert parent).Accounts (Behind log) x D := by
  have hnote (event : C → Event) (y : C × σ) :
      (Attempt.update fun x : C × σ => (x.1, t.note (event x.1) x.2)).Accounts (Behind log) y D :=
    accounts_of_same (h.note _ _)
  refine Accounts.bind (accounts_of_same rfl) fun _ _ hread => ?_
  cases hread
  dsimp only
  split
  · rename_i new
    refine h.reset.bind fun _ y ready => h.create.wrapping.bind fun _ z create => ?_
    refine (hnote (fun c => .childCreated t.kind (t.id c)) z).bind fun _ w hw => ?_
    cases hw
    exact (below _ (.created new ready (wrapping_eq_ok.mp create))).inContext
  · rename_i old
    refine h.update.wrapping.bind fun n z update => ?_
    split
    · exact Accounts.bind (accounts_of_same rfl) nofun
    · rename_i found
      refine (hnote (fun c => .childUpdated t.kind (t.id c)) z).bind fun _ w hw => ?_
      cases hw
      exact (below _ (.updated old (wrapping_eq_ok.mp update) found)).inContext

theorem discard (h : t.Logs log table) (hD : D (log s) table) : (t.discard p i).Accounts log s D := by
  have hdelete : (t.delete i).Accounts log s D :=
    accounts_of_issued (h.delete i s) fun _ htable => by cases htable; exact hD
  refine hdelete.wrapping.bind fun n s₁ _ => ?_
  split
  · exact Accounts.bind (accounts_of_same rfl) nofun
  · exact accounts_of_same (h.note _ _)

/-- A reconciliation deletes what is left over, and else only below its children. -/
theorem reconcile (h : t.Logs log table) (own : ∀ i s', t.Deletes p cs s i s' → D (log s') table)
    (below : ∀ done c rest s₁ z, t.Reaches p cs s done c rest s₁ →
      t.Writes (some p) (t.attach p c, s₁) z → t.descend.Accounts (Behind log) z D) :
    (t.reconcile p).Accounts (Behind log) (cs, s) D := by
  refine (h.existing.onSecond cs).wrapping.bind fun ids x hread => ?_
  obtain ⟨us, s₁⟩ := x
  obtain ⟨hlisted, rfl⟩ := onSecond_eq_ok.mp (wrapping_eq_ok.mp hread)
  clear hread
  refine Accounts.bind (accounts_of_same rfl) fun _ _ hread => ?_
  cases hread
  dsimp only
  refine Accounts.bind (accounts_each fun front c rest done s₂ hcs hfront => ?_) fun _ y hplace => ?_
  · have reaches : t.Reaches p us s done c rest s₂ := ⟨front, ids, s₁, hcs, hlisted, hfront⟩
    unfold Accounts
    rw [place_eq_upsert]
    exact h.upsert fun z writes => below done c rest s₂ z reaches writes
  · obtain ⟨cs', s₂⟩ := y
    refine Accounts.bind (Accounts.onSecond (accounts_forAll fun front i rest s₃ hstale hfront => ?_) cs')
      fun _ _ _ => accounts_of_same rfl
    exact h.discard (own i s₃ ⟨ids, s₁, cs', s₂, front, rest, hlisted, hplace, hstale, hfront⟩)

end Logs

/-! ## Undisturbed failures -/

/-- The calls on a table fail with nothing that only a disturbance explains, and a row that is there can
be deleted. -/
structure Undisturbed (t : Reconciler σ C) (v : t.View Row) : Prop where
  existing {p : Int} {s s' : σ} {e : Failure} : t.existing p s = (.error e, s') → e.isDisturbed = false
  reset {x y : C × σ} {e : Failure} : t.reset x = (.error e, y) → e.isDisturbed = false
  create {x y : C × σ} {e : Failure} : t.create x = (.error e, y) → e.isDisturbed = false
  update {parent : Option Int} {x y : C × σ} {e : Failure} :
    t.update parent x = (.error e, y) → e.isDisturbed = false
  delete {i : Int} {s s' : σ} {e : Failure} : t.delete i s = (.error e, s') → e.isDisturbed = false
  notUpdated (i : Int) : (StoreError.Kind.missed t.notUpdated i).isDisturbed = false
  found {i : Int} {s s' : σ} {r : Row} : v.Inv s → v.rows s i = some r → t.delete i s ≠ (.ok 0, s')

namespace Undisturbed

variable {v : t.View Row} {e : Failure}

theorem writeFails (h : t.Undisturbed v) {x y : C × σ} (hw : t.WriteFails parent x e y) :
    e.isDisturbed = false := by
  cases hw with
  | resetting _ reset => exact h.reset reset
  | creating _ _ create => exact (Failure.isDisturbed_wrappedIn _ _).trans (h.create create)
  | updating _ update => exact (Failure.isDisturbed_wrappedIn _ _).trans (h.update update)
  | missing => exact h.notUpdated _

theorem upsert (h : t.Undisturbed v) {x y : C × σ}
    (below : ∀ {z f y}, t.Writes parent x z → t.descend z = (.error f, y) → f.isDisturbed = false)
    (hu : t.upsert parent x = (.error e, y)) : e.isDisturbed = false := by
  rcases t.upsert_eq_error.mp hu with hw | ⟨z, f, hw, hd, rfl⟩
  · exact h.writeFails hw
  · exact (Failure.isDisturbed_under _ _).trans (below hw hd)

/-- A reconciliation finds every row that it comes to delete. -/
theorem reconcile (h : t.Undisturbed v) (hs : v.Inv s) {y : List C × σ}
    (below : ∀ {z f u y}, t.FailsBelow p z f u (cs, s) y → f.isDisturbed = false)
    (hr : t.reconcile p (cs, s) = (.error e, y)) : e.isDisturbed = false := by
  rcases t.reconcile_eq_error.mp hr with hself | ⟨z, f, u, hbelow, rfl⟩
  · cases hself with
    | listing existing => exact (Failure.isDisturbed_wrappedIn _ _).trans (h.existing existing)
    | writing _ fails => exact h.writeFails fails
    | discarding existing placed stale discarded fails =>
      cases fails with
      | deleting delete => exact (Failure.isDisturbed_wrappedIn _ _).trans (h.delete delete)
      | missing delete =>
        obtain ⟨hs', r, hr, -⟩ := v.deletes hs ⟨_, _, _, _, _, _, existing, placed, stale, discarded⟩
        exact absurd delete (h.found hs' hr)
  · exact (Failure.isDisturbed_under _ _).trans (below hbelow)

end Undisturbed

end Reconciler

end TriviaStore
