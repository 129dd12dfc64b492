import Mathlib.Data.List.Nodup
import TriviaStore.Proofs.Memory.Course
import TriviaStore.Proofs.Reconcile.View

/-! # What a reconciliation leaves in memory

A reconciliation that succeeds leaves under the parent one row for every id that the children carry in
the end, with the text of the last child carrying it, and takes away what was there under other ids.
Ids may be given twice, and a child may have the id that is given to another one on the way.
-/

namespace TriviaStore.Memory

open Attempt

variable {names : TableNames} {plan : Plan TableCall} {p i : Int} {m m' : Memory} {c c' : Choice}
  {cs cs' : List Choice}

/-! ## Rows by id -/

theorem Sound.rowAt_eq_some (h : m.Sound) {r : MemoryRow} :
    rowAt MemoryRow.id m.rows i = some r ↔ r ∈ m.rows ∧ r.id = i := by
  constructor
  · exact fun hr => ⟨mem_of_rowAt hr, key_of_rowAt hr⟩
  · rintro ⟨hr, hi⟩
    rcases hat : rowAt MemoryRow.id m.rows i with _ | r'
    · exact absurd hi (rowAt_eq_none.mp hat r hr)
    · have hid : r'.id = r.id := (key_of_rowAt hat).trans hi.symm
      rw [List.inj_on_of_nodup_map h.distinct (mem_of_rowAt hat) hr hid]

theorem Sound.holds_iff (h : m.Sound) :
    m.Holds p i ↔ ∃ r, rowAt MemoryRow.id m.rows i = some r ∧ r.parent = p := by
  simp only [h.rowAt_eq_some, Holds, and_assoc]

theorem Sound.mem_iff (h : m.Sound) {r : MemoryRow} : r ∈ m.rows ↔
    (rowAt MemoryRow.id m.rows r.id).filter (·.parent == r.parent) = some r := by
  rw [Option.filter_eq_some_iff, h.rowAt_eq_some]
  simp

theorem Sound.rowAt_next (h : m.Sound) : rowAt MemoryRow.id m.rows m.nextId = none :=
  rowAt_eq_none.mpr fun _ hr => Int.ne_of_lt (h.below _ (List.mem_map_of_mem hr))

theorem rowAt_remove (rows : List MemoryRow) (gone : Int) :
    rowAt MemoryRow.id (rows.filter (·.id != gone)) i =
      if i = gone then none else rowAt MemoryRow.id rows i := by
  unfold rowAt
  rw [List.find?_filter]
  split
  · subst i
    exact List.find?_eq_none.mpr fun r _ => by simp
  · congr 1
    funext r
    by_cases hr : r.id = i <;> simp_all

/-- Looking up a row after the text of a row under a parent was set. -/
theorem Sound.rowAt_setText (h : m.Sound) {j : Int} (text : Option String) (hj : m.Holds p j) :
    rowAt MemoryRow.id (m.setText j (some p) text).2.rows i =
      if i = j then some ⟨j, p, text⟩ else rowAt MemoryRow.id m.rows i := by
  rw [Memory.setText, rowAt_map fun r => by split <;> rfl]
  split
  · subst i
    obtain ⟨r, hr, rfl⟩ := h.holds_iff.mp hj
    have hmeant : r.isMeant j (some r.parent) = true := isMeant_iff.mpr ⟨key_of_rowAt hr, rfl⟩
    rw [hr, Option.map_some, if_pos hmeant, ← key_of_rowAt hr]
  · rename_i hne
    rcases hat : rowAt MemoryRow.id m.rows i with _ | r
    · rfl
    · have hmeant : ¬ r.isMeant j (some p) = true := fun hr =>
        hne ((key_of_rowAt hat).symm.trans (isMeant_iff.mp hr).1)
      rw [Option.map_some, if_neg hmeant]

/-! ## Children -/

/-- The row that a child is stored as. -/
def row (c : Choice) : MemoryRow := ⟨c.id, c.questionId, c.text⟩

theorem place_new (hc : c.id = 0) (h : (table names plan).place p (c, m) = (.ok (), (c', m'))) :
    c' = { c with questionId := p, id := m.nextId } ∧ m'.rows = m.rows ++ [row c'] := by
  obtain ⟨_, hwrites, hdescend⟩ := Reconciler.writes_of_upsert (Reconciler.place_eq_ok.mp h)
  rcases hwrites with @⟨⟨_, _⟩, ⟨_, _⟩, new, ready, create⟩ | @⟨n, ⟨z, s₁⟩, old, update, found⟩
  · cases ready
    obtain ⟨-, rfl, rfl⟩ := create_ok create
    obtain ⟨hcall, rfl⟩ := descend_eq.mp hdescend
    obtain ⟨-, hact⟩ := call_ok hcall
    obtain ⟨-, rfl⟩ := Prod.mk.inj hact
    exact ⟨rfl, rfl⟩
  · exact absurd hc old

theorem place_old (hc : c.id ≠ 0) (h : (table names plan).place p (c, m) = (.ok (), (c', m'))) :
    c' = { c with questionId := p } ∧ m.Holds p c.id ∧
      m'.rows = (m.setText c.id (some p) c.text).2.rows := by
  obtain ⟨_, hwrites, hdescend⟩ := Reconciler.writes_of_upsert (Reconciler.place_eq_ok.mp h)
  rcases hwrites with @⟨⟨_, _⟩, ⟨_, _⟩, new, ready, create⟩ | @⟨n, ⟨z, s₁⟩, old, update, found⟩
  · exact absurd new hc
  · obtain ⟨-, hholds, rfl, rfl⟩ := update_found found update
    obtain ⟨hcall, rfl⟩ := descend_eq.mp hdescend
    obtain ⟨-, hact⟩ := call_ok hcall
    obtain ⟨-, rfl⟩ := Prod.mk.inj hact
    exact ⟨rfl, hholds, rfl⟩

variable (names plan) in
/-- The rows by id, each owned by its parent. -/
def view : (table names plan).View MemoryRow where
  Inv := Sound
  rows m := rowAt MemoryRow.id m.rows
  owner := MemoryRow.parent
  stored c := some (row c)
  existing {p m m' ids} hm h := by
    obtain ⟨-, rfl, rfl⟩ := existing_ok h
    exact ⟨⟨hm.distinct, hm.below⟩, rfl, fun i => mem_under.trans hm.holds_iff⟩
  place {p c c' m m'} hm h := by
    have hsound : Sound ((table names plan).place p (c, m)).2.2 := Sound.keeps.place p (c, m) hm
    rw [h] at hsound
    by_cases hc : c.id = 0
    · obtain ⟨rfl, hrows⟩ := place_new hc h
      refine ⟨hsound, ⟨_, rfl, rfl, fun i => ?_⟩, fun _ i r hr => ?_, fun hne => absurd hc hne⟩
      · rw [hrows]
        exact rowAt_append MemoryRow.id hm.rowAt_next i
      · rw [← key_of_rowAt hr]
        exact hm.below _ (List.mem_map_of_mem (mem_of_rowAt hr))
    · obtain ⟨rfl, hholds, hrows⟩ := place_old hc h
      refine ⟨hsound, ⟨_, rfl, rfl, fun i => ?_⟩, fun h₀ => absurd h₀ hc, fun _ => ?_⟩
      · rw [hrows]
        exact hm.rowAt_setText c.text hholds
      · exact ⟨rfl, hm.holds_iff.mp hholds⟩
  discard {p i m m'} hm h := by
    have hsound : Sound ((table names plan).discard p i m).2 := Sound.keeps.discard p i m hm
    rw [h] at hsound
    obtain ⟨n, s₁, hn, hdelete, rfl⟩ := Reconciler.discard_eq_ok.mp h
    obtain ⟨-, rfl⟩ := delete_found hn hdelete
    exact ⟨hsound, fun j => rowAt_remove m.rows i⟩

/-! ## Whole reconciliations -/

/-- What a reconciliation has made of a table and of the children, and which ids it has deleted. -/
structure Reconciled (p : Int) (cs : List Choice) (m : Memory) (deleted : List Int) (cs' : List Choice)
    (m' : Memory) : Prop where
  /-- The ids of the rows still differ. -/
  sound : m'.Sound
  others : ∀ r, r.parent ≠ p → (r ∈ m'.rows ↔ r ∈ m.rows)
  /-- Under the parent there is a row for every id that a child carries, with the last one's text. -/
  rows : ∀ r, r.parent = p →
    (r ∈ m'.rows ↔ ∃ c, lastWith (·.id) r.id cs' = some c ∧ c.text = r.text)
  /-- Children without an id are given ids in the order of the list, starting with the next one. -/
  children : cs' = numbered p m.nextId cs
  stale : Stale p cs m deleted
  gone : ∀ i ∈ deleted, ∀ r ∈ m'.rows, r.id ≠ i

/-- Every child points at the parent. -/
theorem parent_of_numbered {next : Int} (hc : c ∈ numbered p next cs) : c.questionId = p := by
  induction cs generalizing next with
  | nil => cases hc
  | cons d cs ih =>
    rcases List.mem_cons.mp hc with rfl | hc
    · rfl
    · exact ih hc

theorem numbered_of_reconcile {deleted : List Int}
    (h : (table names plan).reconcile p (cs, m) = (.ok deleted, (cs', m'))) :
    cs' = numbered p m.nextId cs ∧ ∀ i ∈ deleted, ¬ m'.Holds p i := by
  obtain ⟨existing, s₁, s₂, hexisting, hplace, -, hdiscard⟩ := Reconciler.reconcile_eq_ok.mp h
  obtain ⟨-, hnext, hlisted⟩ := placing_listed hexisting
  obtain ⟨hcs, hplaced⟩ := hlisted.eachOf hplace
  obtain ⟨-, hleft⟩ := hplaced.toWent.forAll hdiscard
  rw [hnext] at hcs
  exact ⟨hcs, fun i hi hholds => ((hleft i).mp hholds).2 hi⟩

theorem reconcile_results {deleted : List Int} (hm : m.Sound)
    (h : (table names plan).reconcile p (cs, m) = (.ok deleted, (cs', m'))) :
    Reconciled p cs m deleted cs' m' := by
  have hrec := (view names plan).reconcile hm h
  have hm' : m'.Sound := hrec.inv
  obtain ⟨hcs, hgone⟩ := numbered_of_reconcile h
  obtain ⟨hdeleted, -⟩ := follows_of_ok h
  have hstale : Stale p cs m deleted := hdeleted ▸ stale_staleIds
  have hothers : ∀ r, r.parent ≠ p → (r ∈ m'.rows ↔ r ∈ m.rows) := by
    intro r hr
    have ho : (rowAt MemoryRow.id m'.rows r.id).filter (·.parent == r.parent) =
      (rowAt MemoryRow.id m.rows r.id).filter (·.parent == r.parent) := hrec.others _ hr r.id
    rw [hm'.mem_iff, hm.mem_iff, ho]
  refine ⟨hm', hothers, fun r hr => ?_, hcs, hstale, fun i hi r hr hid => ?_⟩
  · have hmine : (rowAt MemoryRow.id m'.rows r.id).filter (·.parent == p) =
      (lastWith (·.id) r.id cs').bind fun c => some (row c) := hrec.mine r.id
    subst hr
    rw [hm'.mem_iff, hmine, Option.bind_eq_some_iff]
    refine exists_congr fun c => and_congr_right fun hlast => ?_
    obtain ⟨hc, hid⟩ := mem_of_lastWith hlast
    have hparent : c.questionId = r.parent := parent_of_numbered (hcs ▸ hc)
    simp only [row, hid, hparent, Option.some.injEq]
    exact ⟨fun he => by rw [← he], fun he => by rw [he]⟩
  · by_cases hp : r.parent = p
    · exact hgone i hi ⟨r, hr, hid, hp⟩
    · obtain ⟨r', hr', hid', hp'⟩ := ((hstale.mem i).mp hi).1
      have hsame := List.inj_on_of_nodup_map hm.distinct ((hothers r hp).mp hr) hr' (hid.trans hid'.symm)
      exact hp (hsame ▸ hp')

/-- Three rows under one parent and one under another. -/
def letters : Memory :=
  ofRows [⟨1, 1, some "a"⟩, ⟨2, 1, some "b"⟩, ⟨3, 1, some "c"⟩, ⟨4, 2, some "d"⟩]

/-- One child is given twice, and one has the id that the new child in front of it is given. -/
def revised : List Choice :=
  [{ Choice.new "e" true with id := 3 }, .new "f" true, { Choice.new "g" true with id := 5 },
    { Choice.new "h" true with id := 3 }]

theorem reconcile_results_revised : ∃ cs' m',
    (choices .quiet).reconcile 1 (revised, letters) = (.ok [1, 2], (cs', m')) ∧
      Reconciled 1 revised letters [1, 2] cs' m' := by
  have hm : letters.Sound := .ofRows (by decide)
  have hok : ((choices .quiet).reconcile 1 (revised, letters)).1 = .ok [1, 2] := by decide +kernel
  rcases h : (choices .quiet).reconcile 1 (revised, letters) with ⟨r, cs', m'⟩
  rw [h] at hok
  cases hok
  rw [choices_eq_table] at h
  exact ⟨cs', m', rfl, reconcile_results hm h⟩

end TriviaStore.Memory
