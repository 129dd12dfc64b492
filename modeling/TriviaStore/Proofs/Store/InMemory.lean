import TriviaStore.Proofs.Connection.Success
import TriviaStore.Proofs.Reconcile.InStep
import TriviaStore.Proofs.Store.Operation
import TriviaStore.Proofs.Store.Views
import TriviaStore.Reconcile.Memory

/-! # Choices in memory

Reconciling stored choices and reconciling the same rows in memory are in step: the table in memory keeps
of every row what matters, and its counter stands at the id that the database would give next. Only when
rows are deleted the counter may get ahead, and then no ids are given any more.
-/

namespace TriviaStore

open Attempt

/-- A stored choice as the table in memory keeps it. -/
def ChoiceRow.inMemory (r : ChoiceRow) : MemoryRow := ⟨r.id, r.questionId, some r.text⟩

/-- The table in memory keeps the choices that the session sees, and it has been told the same events
since those that came before. -/
structure Connection.Agrees (past : List Event) (c : Connection) (m : Memory) : Prop where
  rows : m.rows = c.working.choices.map ChoiceRow.inMemory
  events : c.events = past ++ m.events

/-- Besides, it would give out the same ids, of which there are some left for choices under a stored
question. -/
structure Connection.Mirrors (past : List Event) (p : Int) (left : Nat) (c : Connection) (m : Memory) :
    Prop extends Agrees past c m where
  next : m.nextId = freshId (c.working.choices.map (·.id))
  pos : ∀ r ∈ c.working.choices, 0 < r.id
  room : m.nextId + left ≤ 9223372036854775808
  parent : ∃ q ∈ c.working.questions, q.id = p

/-- A choice under the question with an id that can be stored. -/
structure Choice.Storable (p : Int) (x : Choice) : Prop where
  fit : fits x.id = true
  parent : x.questionId = p
  text : x.text.isSome = true
  correct : x.correct.isSome = true

namespace Connection.Mirrors

variable {past : List Event} {p : Int} {n : Nat} {c : Connection} {m : Memory}

theorem next_pos (h : c.Mirrors past p n m) : 0 < freshId (c.working.choices.map (·.id)) := by
  refine freshId_pos fun i hi => ?_
  obtain ⟨r, hr, rfl⟩ := List.mem_map.mp hi
  exact h.pos r hr

theorem fits_next (h : c.Mirrors past p (n + 1) m) :
    fits (freshId (c.working.choices.map (·.id))) = true := by
  have hpos := h.next_pos
  have hroom := h.room
  rw [h.next] at hroom
  simp only [fits, Bool.and_eq_true]
  exact ⟨decide_eq_true (by omega), decide_eq_true (by omega)⟩

theorem fits_id (h : c.Mirrors past p n m) {r : ChoiceRow} (hr : r ∈ c.working.choices) :
    fits r.id = true := by
  have hpos := h.pos r hr
  have hlt : r.id < freshId (c.working.choices.map (·.id)) := lt_freshId (List.mem_map_of_mem hr)
  have hroom := h.room
  rw [h.next] at hroom
  simp only [fits, Bool.and_eq_true]
  exact ⟨decide_eq_true (by omega), decide_eq_true (by omega)⟩

end Connection.Mirrors

/-! ## Calls -/

namespace Memory

variable {past : List Event} {p i : Int} {n : Nat} {c : Connection} {m : Memory} {x : Choice}

theorem isMeant_inMemory (parent : Option Int) (r : ChoiceRow) :
    r.inMemory.isMeant i parent = Tables.meansChoice i parent r := rfl

theorem existing_inStep (hp : fits p = true) : Attempt.InStep (Connection.Mirrors past p n)
    (fun is js c m => is = js ∧ (∀ i ∈ is, fits i = true) ∧ Connection.Mirrors past p n c m)
    (Connection.Agrees past) ((Choice.reconciler .quiet).existing p) ((choices .quiet).existing p) := by
  intro c m h
  have hsql := Choice.existing_quiet (c := c) hp
  have hmem : (choices .quiet).existing p m = (.ok ((m.rows.filter (·.parent == p)).map (·.id)),
      { m with calls := m.calls ++ [.existing p] }) := rfl
  rw [hsql, hmem]
  refine .ok ⟨?_, fun i hi => ?_, { h with }⟩
  · rw [h.rows, List.filter_map, List.map_map]
    rfl
  · obtain ⟨r, hr, rfl⟩ := List.mem_map.mp hi
    exact h.fits_id (List.mem_filter.mp hr).1

theorem create_inStep (hp : fits p = true) (hx : x.Storable p)
    (h : c.Mirrors past p (n + 1) m) :
    EndsInStep (fun _ _ => Beside (Connection.Mirrors past p n)) (Beside (Connection.Agrees past))
      ((Choice.reconciler .quiet).create (x, c)) ((choices .quiet).create (x, m)) := by
  obtain ⟨text, htext⟩ := Option.isSome_iff_exists.mp hx.text
  obtain ⟨correct, hcorrect⟩ := Option.isSome_iff_exists.mp hx.correct
  have hinsert : c.working.insertChoice x.questionId x.text x.correct = .ok (m.nextId,
      { c.working with choices := c.working.choices ++ [⟨m.nextId, p, text, flag correct⟩] }) := by
    rw [hx.parent]
    refine Tables.insertChoice_eq_ok.mpr ⟨hp, text, correct, htext, hcorrect, h.parent, h.next, ?_, rfl⟩
    rw [h.next]
    exact h.fits_next
  have hmem : (choices .quiet).create (x, m) = (.ok (), ({ x with id := m.nextId },
      { m with
        rows := m.rows ++ [⟨m.nextId, x.questionId, x.text⟩]
        nextId := m.nextId + 1
        calls := m.calls ++ [.create x.text] })) := rfl
  dsimp only [Choice.reconciler, assigning]
  rw [Connection.insert_quiet hinsert, hmem]
  refine .ok ⟨rfl, ⟨?_, h.events⟩, ?_, ?_, ?_, h.parent⟩
  · rw [h.rows, hx.parent, htext, List.map_append]
    rfl
  · rw [List.map_append, h.next]
    exact (freshId_concat _).symm
  · intro r hr
    rcases List.mem_append.mp hr with hr | hr
    · exact h.pos r hr
    · rw [List.mem_singleton.mp hr]
      change 0 < m.nextId
      rw [h.next]
      exact h.next_pos
  · have hroom := h.room
    dsimp only
    omega

/-- No row in memory has a property if no stored choice does. -/
theorem countP_rows (h : c.Agrees past m) {q : MemoryRow → Bool} :
    m.rows.countP q = 0 ↔ ∀ r ∈ c.working.choices, q r.inMemory = false := by
  simp [h.rows, List.countP_eq_zero]

theorem update_inStep (hp : fits p = true) (hx : x.Storable p) (h : c.Mirrors past p n m) :
    EndsInStep (fun i j y z => (i = 0 ↔ j = 0) ∧ Beside (Connection.Mirrors past p n) y z)
      (Beside (Connection.Agrees past)) ((Choice.reconciler .quiet).update (some p) (x, c))
      ((choices .quiet).update (some p) (x, m)) := by
  obtain ⟨text, htext⟩ := Option.isSome_iff_exists.mp hx.text
  obtain ⟨correct, hcorrect⟩ := Option.isSome_iff_exists.mp hx.correct
  have hfits : ∀ i ∈ x.id :: (some p).toList, fits i = true := by
    simp [hx.fit, hp]
  have hcount := countP_rows h.toAgrees (q := MemoryRow.isMeant x.id (some p))
  have hmem : (choices .quiet).update (some p) (x, m) =
      (.ok (m.rows.countP (MemoryRow.isMeant x.id (some p))), (x, { m with
        rows := m.rows.map fun r =>
          if MemoryRow.isMeant x.id (some p) r then { r with text := x.text } else r
        calls := m.calls ++ [.update x.id (some p)] })) := rfl
  rw [hmem]
  dsimp only [Choice.reconciler]
  by_cases hmeant : ∃ r ∈ c.working.choices, Tables.meansChoice x.id (some p) r = true
  · rw [Connection.write_quiet (Tables.updateChoice_eq_ok.mpr
      ⟨hfits, .inr ⟨hmeant, text, correct, htext, hcorrect, rfl, rfl⟩⟩)]
    refine .ok ⟨?_, rfl, ⟨?_, h.events⟩, ?_, ?_, h.room, h.parent⟩
    · obtain ⟨r, hr, hm⟩ := hmeant
      refine iff_of_false Nat.one_ne_zero fun hzero => ?_
      exact Bool.noConfusion ((hcount.mp hzero r hr).symm.trans hm)
    · rw [h.rows, List.map_map, List.map_map]
      refine List.map_congr_left fun r _ => ?_
      by_cases hm : Tables.meansChoice x.id (some p) r = true <;>
        simp only [Function.comp_apply, isMeant_inMemory, hm, if_true, Bool.false_eq_true, if_false]
      simp only [ChoiceRow.inMemory, htext]
    · rw [h.next, List.map_map]
      congr 2
      funext r
      simp only [Function.comp_apply]
      split <;> rfl
    · intro r hr
      obtain ⟨r', hr', rfl⟩ := List.mem_map.mp hr
      split <;> exact h.pos r' hr'
  · have hnone : ∀ r ∈ c.working.choices, Tables.meansChoice x.id (some p) r = false :=
      fun r hr => Bool.eq_false_iff.mpr fun hm => hmeant ⟨r, hr, hm⟩
    rw [Connection.write_quiet (Tables.updateChoice_eq_ok.mpr ⟨hfits, .inl ⟨hnone, rfl, rfl⟩⟩)]
    refine .ok ⟨iff_of_true rfl (hcount.mpr hnone), rfl, ⟨?_, h.events⟩, h.next, h.pos, h.room, h.parent⟩
    rw [h.rows, List.map_map]
    refine List.map_congr_left fun r hr => ?_
    simp only [Function.comp_apply, isMeant_inMemory, hnone r hr, Bool.false_eq_true, if_false]

theorem delete_inStep (hi : fits i = true) : Attempt.InStep (Connection.Agrees past)
    (fun j k c m => (j = 0 ↔ k = 0) ∧ Connection.Agrees past c m) (Connection.Agrees past)
    ((Choice.reconciler .quiet).delete i) ((choices .quiet).delete i) := by
  intro c m h
  have hcount := countP_rows h (q := fun r => r.id == i)
  have hmem : (choices .quiet).delete i m = (.ok (m.rows.countP (·.id == i)),
      { m with rows := m.rows.filter (·.id != i), calls := m.calls ++ [.delete i] }) := rfl
  rw [hmem]
  dsimp only [Choice.reconciler]
  by_cases hstored : ∃ r ∈ c.working.choices, r.id = i
  · rw [Connection.write_quiet (Tables.deleteChoice_eq_ok.mpr ⟨hi, .inr ⟨hstored, rfl, rfl⟩⟩)]
    refine .ok ⟨?_, ?_, h.events⟩
    · obtain ⟨r, hr, hid⟩ := hstored
      refine iff_of_false Nat.one_ne_zero fun hzero => ?_
      exact absurd hid (beq_eq_false_iff_ne.mp (hcount.mp hzero r hr))
    · rw [h.rows, List.filter_map]
      rfl
  · have hnone : ∀ r ∈ c.working.choices, r.id ≠ i := fun r hr hid => hstored ⟨r, hr, hid⟩
    rw [Connection.write_quiet (Tables.deleteChoice_eq_ok.mpr ⟨hi, .inl ⟨hnone, rfl, rfl⟩⟩)]
    refine .ok ⟨iff_of_true rfl (hcount.mpr fun r hr => beq_eq_false_iff_ne.mpr (hnone r hr)), ?_,
      h.events⟩
    rw [h.rows, List.filter_eq_self]
    intro r hr
    obtain ⟨r', hr', rfl⟩ := List.mem_map.mp hr
    exact bne_iff_ne.mpr (hnone r' hr')

theorem noted (h : c.events = past ++ m.events) {e : Event} :
    c.events ++ [e] = past ++ (m.events ++ [e]) := by
  rw [h, List.append_assoc]

/-- The calls of the table in memory go in step with those on the store. -/
theorem choices_inStep (hp : fits p = true) : (Choice.reconciler .quiet).InStep (choices .quiet) p
    (Choice.Storable p) (fun i => fits i = true) (Connection.Mirrors past p)
    (Connection.Agrees past) where
  kind := rfl
  parentKind := rfl
  notUpdated := rfl
  notDeleted := rfl
  id := rfl
  parent := rfl
  attach := rfl
  existing := existing_inStep hp
  reset _ h := .ok ⟨rfl, rfl, { h with }⟩
  create := create_inStep hp
  update := update_inStep hp
  delete := delete_inStep
  descend := by
    rintro n ⟨x, c⟩ ⟨_, m⟩ ⟨rfl, h⟩
    exact .ok ⟨rfl, { h with }⟩
  note h := { h with events := noted h.events }
  noteFailing h := { h with events := noted h.events }
  weaken h := h.toAgrees

end Memory

/-! ## Whole reconciliations -/

/-- A reconciliation on a connection and one in memory have the same outcome: the same ids deleted or the
same failure, the same children, the same events reported, and rows that agree. -/
structure SameOutcome (c : Connection) (o : Except Failure (List Int) × (List Choice × Connection))
    (o' : Except Failure (List Int) × (List Choice × Memory)) : Prop where
  result : o'.1 = o.1
  children : o'.2.1 = o.2.1
  events : o.2.2.events = c.events ++ o'.2.2.events
  rows : o'.2.2.rows = o.2.2.working.choices.map ChoiceRow.inMemory

theorem Choice.foldr_cost {plan : Plan Statement} (xs : List Choice) :
    xs.foldr (fun x m => (Choice.reconciler plan).cost x + m) 0 = xs.countP (·.id == 0) := by
  induction xs with
  | nil => rfl
  | cons x xs ih =>
    rw [List.foldr_cons, ih, List.countP_cons, Nat.add_comm]
    simp only [Reconciler.cost, beq_iff_eq]
    rfl

/-- Whatever choices a session sees, as long as their ids are positive and there are ids left for the
new ones: reconciling choices under a stored question goes in step with reconciling them in memory. -/
theorem Choice.reconcile_inMemory {c : Connection} {p : Int} {desired : List Choice}
    (hpos : ∀ r ∈ c.working.choices, 0 < r.id)
    (hroom : freshId (c.working.choices.map (·.id)) + desired.countP (·.id == 0) ≤
      9223372036854775808)
    (hp : fits p = true) (hparent : ∃ q ∈ c.working.questions, q.id = p)
    (hdesired : ∀ x ∈ desired, fits x.id = true ∧ x.text.isSome = true ∧ x.correct.isSome = true) :
    SameOutcome c ((Choice.reconciler .quiet).reconcile p (desired, c))
      ((Memory.choices .quiet).reconcile p
        (desired, .ofRows (c.working.choices.map ChoiceRow.inMemory))) := by
  have hids : (c.working.choices.map ChoiceRow.inMemory).map (·.id) = c.working.choices.map (·.id) := by
    rw [List.map_map]
    rfl
  have hstart : c.Mirrors c.events p
      (desired.foldr (fun x m => (Choice.reconciler .quiet).cost x + m) 0)
      (.ofRows (c.working.choices.map ChoiceRow.inMemory)) := by
    refine ⟨⟨rfl, (List.append_nil _).symm⟩, ?_, hpos, ?_, hparent⟩
    · exact congrArg freshId hids
    · rw [Choice.foldr_cost, Memory.ofRows, hids]
      exact hroom
  have hgood : ∀ x ∈ desired, Choice.Storable p ((Choice.reconciler .quiet).attach p x) ∧
      (Choice.reconciler .quiet).id ((Choice.reconciler .quiet).attach p x) =
        (Choice.reconciler .quiet).id x := fun x hx =>
    ⟨⟨(hdesired x hx).1, rfl, (hdesired x hx).2.1, (hdesired x hx).2.2⟩, rfl⟩
  have hend := (Memory.choices_inStep hp).reconcile hgood hstart
  generalize (Choice.reconciler .quiet).reconcile p (desired, c) = o at hend
  generalize (Memory.choices .quiet).reconcile p _ = o' at hend
  cases hend with
  | ok h => exact ⟨congrArg Except.ok h.1.symm, h.2.1.symm, h.2.2.events, h.2.2.rows⟩
  | error h => exact ⟨rfl, h.1.symm, h.2.events, h.2.rows⟩

/-- Below the first question of the demo store: a choice that is kept, a new one, and the others gone. -/
theorem Choice.reconcile_inMemory_demo :
    SameOutcome (.onto .demo)
      ((Choice.reconciler .quiet).reconcile 1
        ([{ Choice.new "One" true with id := 1 }, .new "Another" false], .onto .demo))
      ((Memory.choices .quiet).reconcile 1
        ([{ Choice.new "One" true with id := 1 }, .new "Another" false],
          .ofRows (Tables.demo.choices.map ChoiceRow.inMemory))) :=
  Choice.reconcile_inMemory (by decide +kernel) (by decide +kernel) (by decide +kernel)
    (by decide +kernel) (by decide +kernel)

end TriviaStore
