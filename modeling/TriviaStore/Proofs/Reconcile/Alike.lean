import TriviaStore.Proofs.Attempt.Alike
import TriviaStore.Proofs.Attempt.Failing
import TriviaStore.Reconcile

/-! # Reconciling alike

Upserting two children ends alike if the operations on single children do; reconciling two lists does
if placing their members makes them equal. What a failure says of a child is made of the child's id
and of the parent that it points at.
-/

namespace TriviaStore.Reconciler

open Attempt

variable {σ C α : Type} {t : Reconciler σ C} {parent : Option Int} {p : Int}
  {R N M S : C → C → Prop} {E : Failure × C → Failure × C → Prop}

/-- Failures stay related when they are told again in words that depend on the child's id and parent
only. -/
def Worded (t : Reconciler σ C) (E : Failure × C → Failure × C → Prop) : Prop :=
  ∀ m : C → Failure → Failure, (∀ c d, t.id c = t.id d → t.parent c = t.parent d → m c = m d) →
    ∀ e f c d, E (e, c) (f, d) → E (m c e, c) (m d f, d)

theorem worded_telling : t.Worded (FailsTelling fun c => (t.id c, t.parent c)) := by
  rintro m hm e f c d ⟨he, hc⟩
  obtain ⟨hid, hparent⟩ := Prod.mk.inj hc
  obtain rfl : e = f := he
  exact ⟨congrFun (hm c d hid hparent) e, hc⟩

section Worded

variable {T : α → C → C → Prop} {a : Attempt (C × σ) α} {m : C × σ → String} (hE : t.Worded E)
  (hm : ∀ c d s, t.id c = t.id d → t.parent c = t.parent d → m (c, s) = m (d, s))

include hE hm

theorem Worded.wrapping (ha : a.Alike R T E) : (a.wrapping m).Alike R T E := by
  refine ha.mapFailure fun e f c d s h => ?_
  refine hE (fun c e => e.wrappedIn (m (c, s))) (fun c d hid hp => ?_) e f c d h
  rw [hm c d s hid hp]

theorem Worded.inContext (ha : a.Alike R T E) : (a.inContext m).Alike R T E := by
  refine ha.mapFailure fun e f c d s h => ?_
  refine hE (fun c e => e.under (m (c, s))) (fun c d hid hp => ?_) e f c d h
  rw [hm c d s hid hp]

end Worded

theorem alike_upsert (hE : t.Worded E) (hR : ∀ c d, R c d → t.id d = t.id c)
    (hM : ∀ c d, M c d → t.id d = t.id c)
    (hreset : t.reset.Alike (fun c d => R c d ∧ t.id c = 0) (fun _ => N) E)
    (hcreate : t.create.Alike N (fun _ => M) E)
    (hupdate : (t.update parent).Alike (fun c d => R c d ∧ t.id c ≠ 0)
      (fun n c d => if n = 0 then ∀ e, E (e, c) (e, d) else M c d) E)
    (hdescend : t.descend.Alike M (fun _ => S) E) :
    (t.upsert parent).Alike R (fun _ => S) E := by
  have hnote (event : Int → Event) : (Attempt.update fun x : C × σ =>
      (x.1, t.note (event (t.id x.1)) x.2)).Alike M (fun _ => M) E :=
    alike_update fun c d s h => ⟨by rw [hM c d h], h⟩
  have hbelow : (t.descend.inContext fun x => s!"error upserting {t.kind} {t.id x.1}").Alike M
      (fun _ => S) E :=
    hE.inContext (fun c d s hid _ => by rw [hid]) hdescend
  refine Alike.read_bind (fun c d s h => by simp only [hR c d h]) fun c d s h => ?_
  dsimp only
  split
  · rename_i hc
    refine hreset.bind (fun _ => ?_) c d s ⟨h, hc⟩
    refine (hE.wrapping (fun c d s _ hp => by rw [hp]) hcreate).bind fun _ => ?_
    exact (hnote (.childCreated t.kind)).bind fun _ => hbelow
  · rename_i hc
    refine (hE.wrapping (fun c d s hid hp => by rw [hid, hp]) hupdate).bind (fun n => ?_) c d s
      ⟨h, hc⟩
    by_cases hn : n = 0
    · simp only [hn, if_true]
      exact (alike_fail fun _ _ h => h _).bind fun _ =>
        (hnote (.childUpdated t.kind)).bind fun _ => hbelow
    · simp only [hn, if_false]
      exact (hnote (.childUpdated t.kind)).bind fun _ => hbelow

/-- A child is upserted as what it is once it points at the parent. -/
theorem alike_place {Q : C → C → Prop} (hattach : ∀ c d, R c d → Q (t.attach p c) (t.attach p d))
    (hupsert : (t.upsert (some p)).Alike Q (fun _ => S) E) :
    (t.place p).Alike R (fun _ => S) E := by
  have ha : (Attempt.update fun x : C × σ => (t.attach p x.1, x.2)).Alike R (fun _ => Q) E :=
    alike_update fun c d _ h => ⟨rfl, hattach c d h⟩
  exact ha.bind fun _ => hupsert

/-- Children that are equal once they point at the parent are placed in one way. -/
theorem alike_place_of_attach (hE : ∀ x, E x x)
    (hattach : ∀ c d, R c d → t.attach p c = t.attach p d) :
    (t.place p).Alike R (fun _ => Eq) E := by
  refine alike_place (Q := Eq) hattach ?_
  rintro c _ s rfl
  exact .of_eq (fun _ _ => rfl) hE rfl

/-- Lists are reconciled alike if placing makes their members equal. -/
theorem alike_reconcile (hR : ∀ c d, R c d → t.id d = t.id c)
    (hplace : (t.place p).Alike R (fun _ => Eq) (Fails Eq)) :
    (t.reconcile p).Alike (List.Forall₂ R) (fun _ => Eq) (Fails Eq) := by
  have hkept : ∀ cs ds, List.Forall₂ R cs ds → t.kept ds = t.kept cs := by
    intro cs ds h
    induction h with
    | nil => rfl
    | @cons c d cs ds h _ ih =>
      unfold kept at *
      rw [List.map_cons, List.map_cons, hR c d h, List.filter_cons, List.filter_cons, ih]
  have hlist : ((Attempt.onSecond (t.existing p)).wrapping fun _ : List C × σ =>
      s!"failed to list existing {t.kind} ids for {t.parentKind} {p}").Alike (List.Forall₂ R)
        (fun _ => List.Forall₂ R) (Fails Eq) := by
    refine (alike_onSecond (t.existing p) (E := Fails Eq) fun _ _ _ _ => rfl).mapFailure ?_
    rintro e d cs ds s h
    obtain rfl : e = d := h
    rfl
  have heach : (Attempt.each (t.place p)).Alike (List.Forall₂ R) (fun _ => Eq) (Fails Eq) := by
    have he := hplace.each
    rwa [List.forall₂_eq_eq_eq] at he
  refine hlist.bind fun existing => ?_
  refine Alike.read_bind (fun cs ds s h => by simp only [hkept cs ds h]) fun cs ds s h => ?_
  refine heach.bind (fun _ => ?_) cs ds s h
  exact (alike_onSecond _ fun _ _ _ _ => rfl).bind fun _ => alike_pure fun _ _ h => h

end TriviaStore.Reconciler
