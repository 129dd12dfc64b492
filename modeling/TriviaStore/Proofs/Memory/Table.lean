import TriviaStore.Proofs.Reconcile.Keeps
import TriviaStore.Proofs.Reconcile.Success
import TriviaStore.Proofs.Tables.Keyed
import TriviaStore.Reconcile.Memory

/-! # Tables in memory

What the calls on a table in memory do, whatever disturbs them, and what holds of its rows throughout:
their ids differ, and new ids lie above them. The names that a table goes by and the errors that it has
for rows that are missing do not matter to its calls.
-/

namespace TriviaStore

/-- The names that a table in memory goes by, and what its writes can miss. -/
structure TableNames where
  kind : String
  parentKind : String
  notUpdated : Miss
  notDeleted : Miss

namespace Memory

open Attempt

/-- A table in memory under any names. -/
def table (names : TableNames) (plan : Plan TableCall) : Reconciler Memory Choice :=
  { plain plan with
    kind := names.kind, parentKind := names.parentKind
    notUpdated := names.notUpdated, notDeleted := names.notDeleted }

variable {names : TableNames} {plan : Plan TableCall} {m m' : Memory} {k : TableCall}
  {e : Failure} {p i : Int} {c c' : Choice}

theorem choices_eq_table :
    choices plan = table ⟨"option", "question", .updatingChoice, .deletingChoice⟩ plan := rfl

/-! ## Calls -/

/-- The table with one call more on record. -/
def logged (k : TableCall) (m : Memory) : Memory := { m with calls := m.calls ++ [k] }

/-- The ids of the rows under a parent. -/
def under (p : Int) (m : Memory) : List Int := (m.rows.filter (·.parent == p)).map (·.id)

section Calls

variable {α : Type} {act : Memory → α × Memory} {x : α}

theorem call_ok (h : call plan k act m = (.ok x, m')) :
    (∀ e, plan m.calls k ≠ some (.fail e)) ∧ act (m.logged k) = (x, m') := by
  unfold call at h
  dsimp only at h
  split at h
  · cases h
  · rename_i hplan
    cases h
    exact ⟨hplan, rfl⟩

theorem call_error (h : call plan k act m = (.error e, m')) :
    plan m.calls k = some (.fail e) ∧ m' = m.logged k := by
  unfold call at h
  dsimp only at h
  split at h
  · cases h
    exact ⟨‹_›, rfl⟩
  · cases h

end Calls

section Writes

variable {act : Memory → Nat × Memory} {n : Nat}

/-- A write that answers is carried out undisturbed, or it is made to find no row. -/
theorem write_ok (h : write plan k act m = (.ok n, m')) :
    plan m.calls k = none ∧ act (m.logged k) = (n, m') ∨
      plan m.calls k = some .noMatch ∧ n = 0 ∧ m' = m.logged k := by
  unfold write at h
  split at h
  · cases h
    exact .inr ⟨‹_›, rfl, rfl⟩
  · rename_i hplan
    obtain ⟨hfail, hact⟩ := call_ok h
    rcases hk : plan m.calls k with _ | ⟨e⟩ | _
    · exact .inl ⟨rfl, hact⟩
    · exact absurd hk (hfail e)
    · exact absurd hk hplan

/-- A write that finds rows is carried out undisturbed. -/
theorem write_found (h : write plan k act m = (.ok n, m')) (hn : n ≠ 0) :
    plan m.calls k = none ∧ act (m.logged k) = (n, m') := by
  rcases write_ok h with h | ⟨_, rfl, _⟩
  · exact h
  · exact absurd rfl hn

theorem write_error (h : write plan k act m = (.error e, m')) :
    plan m.calls k = some (.fail e) ∧ m' = m.logged k := by
  unfold write at h
  split at h
  · cases h
  · exact call_error h

end Writes

/-! ## Children -/

theorem existing_ok {ids : List Int} (h : (table names plan).existing p m = (.ok ids, m')) :
    (∀ e, plan m.calls (.existing p) ≠ some (.fail e)) ∧ ids = m.under p ∧
      m' = m.logged (.existing p) := by
  obtain ⟨hfail, hact⟩ := call_ok h
  obtain ⟨rfl, rfl⟩ := Prod.mk.inj hact
  exact ⟨hfail, rfl, rfl⟩

theorem create_ok (h : (table names plan).create (c, m) = (.ok (), (c', m'))) :
    (∀ e, plan m.calls (.create c.text) ≠ some (.fail e)) ∧ c' = { c with id := m.nextId } ∧
      m' = (add c.questionId c.text (m.logged (.create c.text))).2 := by
  have h : create plan (c, m) = (.ok (), (c', m')) := h
  dsimp only [create] at h
  split at h
  · rename_i hcall
    obtain ⟨hfail, hact⟩ := call_ok hcall
    obtain ⟨rfl, rfl⟩ := Prod.mk.inj hact
    cases h
    exact ⟨hfail, rfl, rfl⟩
  · cases h

theorem create_error (h : (table names plan).create (c, m) = (.error e, (c', m'))) :
    plan m.calls (.create c.text) = some (.fail e) ∧ c' = c ∧ m' = m.logged (.create c.text) := by
  have h : create plan (c, m) = (.error e, (c', m')) := h
  dsimp only [create] at h
  split at h
  · cases h
  · rename_i hcall
    cases h
    obtain ⟨hfail, rfl⟩ := call_error hcall
    exact ⟨hfail, rfl, rfl⟩

theorem update_eq {parent : Option Int} {r : Except Failure Nat} :
    (table names plan).update parent (c, m) = (r, (c', m')) ↔
      write plan (.update c.id parent) (setText c.id parent c.text) m = (r, m') ∧ c' = c := by
  have h : (table names plan).update parent (c, m) =
      ((write plan (.update c.id parent) (setText c.id parent c.text) m).1, (c,
        (write plan (.update c.id parent) (setText c.id parent c.text) m).2)) := rfl
  rw [h]
  rcases write plan (.update c.id parent) (setText c.id parent c.text) m with ⟨_, _⟩
  grind

theorem descend_eq {r : Except Failure Unit} :
    (table names plan).descend (c, m) = (r, (c', m')) ↔
      call plan (.descend c.id) (fun m => ((), m)) m = (r, m') ∧ c' = c := by
  have h : (table names plan).descend (c, m) =
      ((call plan (.descend c.id) (fun m => ((), m)) m).1, (c,
        (call plan (.descend c.id) (fun m => ((), m)) m).2)) := rfl
  rw [h]
  rcases call plan (.descend c.id) (fun m => ((), m)) m with ⟨_, _⟩
  grind

/-! ## Rows -/

/-- There is a row with an id under a parent. -/
def Holds (p i : Int) (m : Memory) : Prop := ∃ r ∈ m.rows, r.id = i ∧ r.parent = p

theorem mem_under : i ∈ m.under p ↔ m.Holds p i := by
  simp only [under, Holds, List.mem_map, List.mem_filter, beq_iff_eq]
  exact ⟨fun ⟨r, ⟨hr, hp⟩, hi⟩ => ⟨r, hr, hi, hp⟩, fun ⟨r, hr, hi, hp⟩ => ⟨r, ⟨hr, hp⟩, hi⟩⟩

theorem isMeant_iff {r : MemoryRow} :
    r.isMeant i (some p) = true ↔ r.id = i ∧ r.parent = p := by
  simp [MemoryRow.isMeant, @eq_comm _ p]

theorem holds_add {q : Int} {text : Option String} :
    (add q text m).2.Holds p i ↔ m.Holds p i ∨ q = p ∧ i = m.nextId := by
  simp only [add, Holds, List.mem_append, List.mem_singleton]
  constructor
  · rintro ⟨r, hr | rfl, hi, hp⟩
    · exact .inl ⟨r, hr, hi, hp⟩
    · exact .inr ⟨hp, hi.symm⟩
  · rintro (⟨r, hr, hi, hp⟩ | ⟨rfl, rfl⟩)
    · exact ⟨r, .inl hr, hi, hp⟩
    · exact ⟨_, .inr rfl, rfl, rfl⟩

/-- Overwriting texts leaves every row its id and its parent. -/
theorem holds_setText {j : Int} {parent : Option Int} {text : Option String} :
    (setText j parent text m).2.Holds p i ↔ m.Holds p i := by
  simp only [setText, Holds, List.mem_map]
  constructor
  · rintro ⟨_, ⟨r, hr, rfl⟩, hi, hp⟩
    exact ⟨r, hr, by split at hi <;> exact hi, by split at hp <;> exact hp⟩
  · rintro ⟨r, hr, hi, hp⟩
    exact ⟨_, ⟨r, hr, rfl⟩, by split <;> exact hi, by split <;> exact hp⟩

theorem setText_found (text : Option String) :
    (setText i (some p) text m).1 ≠ 0 ↔ m.Holds p i := by
  simp only [setText, Holds, ← Nat.pos_iff_ne_zero, List.countP_pos_iff, isMeant_iff]

theorem holds_remove {j : Int} : (remove j m).2.Holds p i ↔ m.Holds p i ∧ i ≠ j := by
  simp only [remove, Holds, List.mem_filter, bne_iff_ne]
  constructor
  · rintro ⟨r, ⟨hr, hj⟩, rfl, hp⟩
    exact ⟨⟨r, hr, rfl, hp⟩, hj⟩
  · rintro ⟨⟨r, hr, rfl, hp⟩, hj⟩
    exact ⟨r, ⟨hr, hj⟩, rfl, hp⟩

theorem remove_found (h : m.Holds p i) : (remove i m).1 ≠ 0 := by
  obtain ⟨r, hr, hi, _⟩ := h
  exact Nat.pos_iff_ne_zero.mp (List.countP_pos_iff.mpr ⟨r, hr, beq_iff_eq.mpr hi⟩)

/-- A child that is updated has a row under its parent. -/
theorem update_found {n : Nat} (hn : n ≠ 0)
    (h : (table names plan).update (some p) (c, m) = (.ok n, (c', m'))) :
    plan m.calls (.update c.id (some p)) = none ∧ m.Holds p c.id ∧ c' = c ∧
      m' = (setText c.id (some p) c.text (m.logged (.update c.id (some p)))).2 := by
  obtain ⟨hwrite, hc⟩ := update_eq.mp h
  obtain ⟨hplan, hset⟩ := write_found hwrite hn
  have hfound : (setText c.id (some p) c.text (m.logged (.update c.id (some p)))).1 ≠ 0 := by
    rwa [hset]
  have hholds : (m.logged (.update c.id (some p))).Holds p c.id := (setText_found c.text).mp hfound
  exact ⟨hplan, hholds, hc, by rw [hset]⟩

/-- If updating a child finds no row, the plan wants it, or there is no row under the parent. -/
theorem update_missed (h : (table names plan).update (some p) (c, m) = (.ok 0, (c', m'))) :
    (plan m.calls (.update c.id (some p)) = some .noMatch ∨
        plan m.calls (.update c.id (some p)) = none ∧ ¬ m.Holds p c.id) ∧
      c' = c ∧ m'.calls = m.calls ++ [.update c.id (some p)] ∧ m'.events = m.events := by
  obtain ⟨hwrite, hc⟩ := update_eq.mp h
  rcases write_ok hwrite with ⟨hplan, hset⟩ | ⟨hplan, -, rfl⟩
  · have hlost : ¬ (m.logged (.update c.id (some p))).Holds p c.id := by
      rw [← setText_found c.text, hset]
      exact fun hne => hne rfl
    have hm := congrArg Prod.snd hset
    dsimp only at hm
    rw [← hm]
    exact ⟨.inr ⟨hplan, hlost⟩, hc, rfl, rfl⟩
  · exact ⟨.inl hplan, hc, rfl, rfl⟩

theorem delete_found {n : Nat} (hn : n ≠ 0) (h : (table names plan).delete i m = (.ok n, m')) :
    plan m.calls (.delete i) = none ∧ m' = (remove i (m.logged (.delete i))).2 := by
  obtain ⟨hplan, hremove⟩ := write_found h hn
  exact ⟨hplan, by rw [hremove]⟩

/-- If deleting a row that is there finds no row, the plan wants it. -/
theorem delete_missed (hi : m.Holds p i) (h : (table names plan).delete i m = (.ok 0, m')) :
    plan m.calls (.delete i) = some .noMatch ∧ m' = m.logged (.delete i) := by
  rcases write_ok h with ⟨-, hremove⟩ | ⟨hplan, -, hm⟩
  · have hfound : (remove i (m.logged (.delete i))).1 ≠ 0 := remove_found hi
    exact absurd (congrArg Prod.fst hremove) hfound
  · exact ⟨hplan, hm⟩

/-! ## Sound tables -/

/-- The ids of the rows differ, and the id to be given next lies above them. Every table that is filled
with rows of different ids is so, and it stays so. -/
structure Sound (m : Memory) : Prop where
  distinct : (m.rows.map (·.id)).Nodup
  below : ∀ i ∈ m.rows.map (·.id), i < m.nextId

namespace Sound

theorem ofRows {rows : List MemoryRow} (h : (rows.map (·.id)).Nodup) : (Memory.ofRows rows).Sound where
  distinct := h
  below _ hi := lt_freshId hi

theorem add (q : Int) (text : Option String) (h : m.Sound) : (m.add q text).2.Sound := by
  have hids : (m.add q text).2.rows.map (·.id) = m.rows.map (·.id) ++ [m.nextId] := List.map_append
  constructor
  · rw [hids]
    exact List.nodup_append.mpr ⟨h.distinct, List.pairwise_singleton _ _, fun a ha b hb => by
      rw [List.mem_singleton.mp hb]
      exact Int.ne_of_lt (h.below a ha)⟩
  · rw [hids]
    intro i hi
    have hnext : (m.add q text).2.nextId = m.nextId + 1 := rfl
    rcases List.mem_append.mp hi with hi | hi
    · have hlt := h.below i hi
      omega
    · have hnew := List.mem_singleton.mp hi
      omega

theorem setText {j : Int} {parent : Option Int} {text : Option String} (h : m.Sound) :
    (m.setText j parent text).2.Sound := by
  have hids : (m.setText j parent text).2.rows.map (·.id) = m.rows.map (·.id) := by
    rw [Memory.setText, List.map_map]
    exact List.map_congr_left fun r _ => by
      dsimp only [Function.comp]
      split <;> rfl
  exact ⟨hids ▸ h.distinct, hids ▸ h.below⟩

theorem remove {j : Int} (h : m.Sound) : (m.remove j).2.Sound := by
  have hids : ((m.remove j).2.rows.map (·.id)).Sublist (m.rows.map (·.id)) :=
    List.filter_sublist.map _
  exact ⟨h.distinct.sublist hids, fun i hi => h.below i (hids.subset hi)⟩

theorem keeps_call {α : Type} {act : Memory → α × Memory} (hact : ∀ m, Sound m → Sound (act m).2) :
    (call plan k act).Keeps Sound := by
  intro m h
  unfold call
  dsimp only
  split
  · exact ⟨h.distinct, h.below⟩
  · exact hact _ ⟨h.distinct, h.below⟩

theorem keeps_write {act : Memory → Nat × Memory} (hact : ∀ m, Sound m → Sound (act m).2) :
    (write plan k act).Keeps Sound := by
  intro m h
  unfold write
  split
  · exact ⟨h.distinct, h.below⟩
  · exact keeps_call hact m h

/-- Whatever disturbs its calls, a table stays sound. -/
theorem keeps : (table names plan).Keeps Sound where
  existing _ := keeps_call fun _ h => h
  reset := fun _ h => ⟨h.distinct, h.below⟩
  create := by
    rintro ⟨c, m⟩ h
    have hcall : Sound (call plan (.create c.text) (Memory.add c.questionId c.text) m).2 :=
      keeps_call (fun _ h => h.add c.questionId c.text) m h
    show Sound (create plan (c, m)).2.2
    unfold create
    dsimp only
    split <;> rename_i hc <;> rwa [hc] at hcall
  update parent := fun ⟨c, m⟩ h => keeps_write (fun _ h => h.setText) m h
  delete _ := keeps_write fun _ h => h.remove
  descend := fun ⟨_, m⟩ h => keeps_call (fun _ h => h) m h
  note _ _ h := ⟨h.distinct, h.below⟩

end Sound

end Memory

end TriviaStore
