import TriviaStore.Proofs.Connection.Visited
import TriviaStore.Reconcile

/-! # Children visited in order

If the calls on a single child store the child's node and go on below it, then a reconciliation visits
the nodes of the children in order, whatever its outcome. Listing what is stored and deleting what is left
over visits no node.
-/

namespace TriviaStore.Reconciler

open Attempt

variable {C : Type} {t : Reconciler Connection C} {own : C → Node} {below prepared : C → List Node}
  {table : Table}

/-- The calls on a child store its node by one statement each and leave what is below it, going on below it
visits the nodes there, and the other calls store nothing. -/
structure Visits (t : Reconciler Connection C) (table : Table) (own : C → Node)
    (below prepared : C → List Node) : Prop where
  id (c : C) : (own c).id = t.id c
  tabled (c : C) : (own c).table = table
  attach (p : Int) (c : C) : (own (t.attach p c)).detached = (own c).detached ∧
    below (t.attach p c) = below c ∧ prepared (t.attach p c) = prepared c
  prepares (c : C) : Prepared (prepared c) (below c)
  old (c : C) : t.id c ≠ 0 → prepared c = below c
  reset (c : C) (s : Connection) : t.id c = 0 → ∃ c', t.reset (c, s) = (.ok (), (c', s)) ∧
    below c' = prepared c
  create (c : C) (s : Connection) : (t.create (c, s)).2.2.stores = s.stores ++ [.insert table] ∧
    below (t.create (c, s)).2.1 = below c
  update (parent : Option Int) (c : C) (s : Connection) :
    (t.update parent (c, s)).2.2.stores = s.stores ++ [.update table] ∧
    below (t.update parent (c, s)).2.1 = below c ∧
    (own (t.update parent (c, s)).2.1).detached = (own c).detached
  descend (c : C) (s : Connection) : Traverses below (below c) (below c) s.stores (t.descend (c, s)) ∧
    own (t.descend (c, s)).2.1 = own c
  existing (p : Int) (s : Connection) : (t.existing p s).2.stores = s.stores
  delete (i : Int) (s : Connection) : (t.delete i s).2.stores = s.stores
  note (e : Event) (s : Connection) : (t.note e s).stores = s.stores

namespace Visits

variable (h : t.Visits table own below prepared)

include h

/-- Once its row is stored, a child is noted and what is below it is visited. -/
theorem descends {c c₁ : C} {s s₁ : Connection} (event : C → Event) (m : C × Connection → String)
    (hstores : s₁.stores = s.stores ++ [(own c).statement]) (hbelow : below c₁ = prepared c)
    (hkept : (own c).id ≠ 0 → (own c₁).detached = (own c).detached) :
    Enters own below (own c) (prepared c) (below c) s.stores
      (((Attempt.update fun x : C × Connection => (x.1, t.note (event x.1) x.2)) >>= fun _ =>
        t.descend.inContext m) (c₁, s₁)) := by
  rw [bind_of_ok (update_run _ _)]
  obtain ⟨hdescend, hown⟩ := h.descend c₁ (t.note (event c₁) s₁)
  rw [h.note, hstores, hbelow] at hdescend
  obtain ⟨w, hw, hvisited, hall⟩ := hdescend.mapFailure (g := _)
  refine ⟨⟨w, hw, hvisited.of_prepared (h.prepares c), hall⟩, fun hid => ?_⟩
  rw [inContext, mapFailure_snd, hown, hkept hid]

theorem upsert (parent : Option Int) (c : C) (s : Connection) :
    Enters own below (own c) (prepared c) (below c) s.stores (t.upsert parent (c, s)) := by
  have hid := h.id c
  unfold Reconciler.upsert
  rw [bind_of_ok (read_run _)]
  dsimp only
  split
  · rename_i hnew
    have hstatement : (own c).statement = .insert table := by
      rw [Node.statement, if_pos (hid.trans hnew), h.tabled]
    have hkept {m : Node} (hne : (own c).id ≠ 0) : m = (own c).detached := absurd (hid.trans hnew) hne
    obtain ⟨c₁, hreset, hprepared⟩ := h.reset c s hnew
    obtain ⟨hstores, hbelow⟩ := h.create c₁ s
    rw [← hstatement] at hstores
    rw [hprepared] at hbelow
    rw [bind_of_ok hreset]
    refine enters_bind ?_ ?_ hkept fun _ y hcreate => ?_
    · rwa [wrapping, mapFailure_snd]
    · rw [wrapping, mapFailure_snd, hbelow]
      exact .prepared (h.prepares c)
    · rw [wrapping_eq_ok.mp hcreate] at hstores hbelow
      exact h.descends (fun c => .childCreated t.kind (t.id c)) _ hstores hbelow hkept
  · rename_i hold
    have hstatement : (own c).statement = .update table := by
      rw [Node.statement, if_neg (hid ▸ hold), h.tabled]
    have hprepared : below c = prepared c := (h.old c hold).symm
    obtain ⟨hstores, hbelow, hkept⟩ := h.update parent c s
    rw [← hstatement] at hstores
    refine enters_bind ?_ ?_ ?_ fun rows y hupdate => ?_
    · rwa [wrapping, mapFailure_snd]
    · rw [wrapping, mapFailure_snd, hbelow]
      exact .passed (h.prepares c)
    · rw [wrapping, mapFailure_snd]
      exact fun _ => hkept
    rw [wrapping_eq_ok.mp hupdate] at hstores hbelow hkept
    split
    · -- No row has the id.
      rw [bind_of_error (fail_run _ _)]
      refine enters_of_error hstores ?_ fun _ => hkept
      rw [show below y.1 = below c from hbelow]
      exact .passed (h.prepares c)
    · exact h.descends (fun c => .childUpdated t.kind (t.id c)) _ hstores (hbelow.trans hprepared)
        fun _ => hkept

theorem place (p : Int) (c : C) (s : Connection) :
    Traverses (fun c => own c :: below c) (own c :: prepared c) (own c :: below c) s.stores
      (t.place p (c, s)) := by
  obtain ⟨hown, hbelow, hprepared⟩ := h.attach p c
  have hupsert := h.upsert (some p) (t.attach p c) s
  rw [hbelow, hprepared] at hupsert
  unfold Reconciler.place
  rw [bind_of_ok (update_run _ _)]
  exact (hupsert.of_detached hown).whole (own c)

theorem silent_discard (p i : Int) (l : List Statement) : (t.discard p i).Keeps (·.stores = l) := by
  have hdelete : (t.delete i).Keeps (·.stores = l) := fun s hs => (h.delete i s).trans hs
  have hnote : (Attempt.update (t.note (.childDeleted t.kind i))).Keeps (·.stores = l) :=
    keeps_update fun s hs => (h.note _ s).trans hs
  refine hdelete.wrapping.bind fun rows => ?_
  split
  · exact (keeps_fail _).bind fun _ => hnote
  · exact hnote

/-- A reconciliation visits the nodes of the children in order. -/
theorem reconcile (p : Int) (cs : List C) (s : Connection) :
    Traverses (List.flatMap fun c => own c :: below c) (cs.flatMap fun c => own c :: prepared c)
      (cs.flatMap fun c => own c :: below c) s.stores (t.reconcile p (cs, s)) := by
  have hprepared (c : C) : Prepared (own c :: prepared c) (own c :: below c) :=
    .cons (fun _ => rfl) (h.prepares c)
  have hexisting : (Attempt.onSecond (t.existing p) : Attempt (List C × Connection) _).Silent :=
    silent_onSecond fun l s hs => (h.existing p s).trans hs
  refine traverses_after (y := (cs, s)) hexisting.mapFailure (prepared_flatMap hprepared cs) fun _ c => ?_
  rw [bind_of_ok (read_run _)]
  refine Traverses.bind (traverses_eachOf hprepared (h.place p) cs c) fun _ => ?_
  exact (silent_onSecond fun l => Keeps.forAll (fun i => h.silent_discard p i l) _).bind fun _ =>
    silent_pure _

end Visits

end TriviaStore.Reconciler
