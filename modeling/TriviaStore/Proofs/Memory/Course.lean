import TriviaStore.Proofs.Memory.Table
import TriviaStore.Proofs.Reconcile.Origin

/-! # The course of a reconciliation

The calls that a reconciliation makes on a table are known beforehand: it lists what is under the
parent, writes every child and goes on below it, in the order of the list, and deletes in ascending
order what is left over. Whatever is done to the calls, they are made in this order up to the first one
that fails, which is told in the words for that call, and the events are those of the calls before it.
-/

namespace TriviaStore

open Attempt

/-- The child as it is stored under a parent: if it has no id, it has the one that is given next. -/
def Choice.filed (p next : Int) (c : Choice) : Choice :=
  { c with questionId := p, id := if c.id = 0 then next else c.id }

/-- The id that is given next when the child has been stored. -/
def Choice.following (next : Int) (c : Choice) : Int := if c.id = 0 then next + 1 else next

namespace TableCall

def isCreate : TableCall → Bool
  | create _ => true
  | _ => false

/-- How many rows some calls have created. -/
def created (calls : List TableCall) : Int := calls.countP isCreate

theorem created_append (calls more : List TableCall) :
    created (calls ++ more) = created calls + created more := by
  simp [created]

/-- What a call that goes well is told to have done, given the id that is given next. -/
def event (kind : String) (next : Int) : TableCall → List Event
  | create _ => [.childCreated kind next]
  | update i _ => [.childUpdated kind i]
  | delete i => [.childDeleted kind i]
  | _ => []

/-- What calls that go well are told to have done one after the other. -/
def events (kind : String) : Int → List TableCall → List Event
  | _, [] => []
  | next, call :: calls => event kind next call ++ events kind (next + created [call]) calls

theorem events_singleton (kind : String) (next : Int) (call : TableCall) :
    events kind next [call] = event kind next call := List.append_nil _

theorem events_append (kind : String) (next : Int) (calls more : List TableCall) :
    events kind next (calls ++ more) =
      events kind next calls ++ events kind (next + created calls) more := by
  induction calls generalizing next with
  | nil => simp [events, created]
  | cons call calls ih =>
    have hcons : created (call :: calls) = created [call] + created calls :=
      created_append [call] calls
    rw [List.cons_append, events, events, ih, hcons, List.append_assoc, Int.add_assoc]

end TableCall

namespace Memory

open TableCall

/-! ## Plans -/

/-- The calls that write a child's own row. -/
def writesOf (p : Int) (c : Choice) : List TableCall :=
  if c.id = 0 then [.reset 0, .create c.text] else [.update c.id (some p)]

/-- The calls that store a child and go on below it. -/
def callsFor (p next : Int) (c : Choice) : List TableCall :=
  writesOf p c ++ [.descend (c.filed p next).id]

/-- The calls that store children, given the id that is given next. -/
def upserts (p : Int) : Int → List Choice → List TableCall
  | _, [] => []
  | next, c :: cs => callsFor p next c ++ upserts p (c.following next) cs

/-- All calls of a reconciliation that ends with the deletion of stale ids. -/
def course (p : Int) (cs : List Choice) (stale : List Int) (m : Memory) : List TableCall :=
  .existing p :: upserts p m.nextId cs ++ stale.map .delete

/-- What is under the parent and is the id of no child, in ascending order. -/
structure Stale (p : Int) (cs : List Choice) (m : Memory) (stale : List Int) : Prop where
  ascending : stale.Pairwise (· < ·)
  mem : ∀ i, i ∈ stale ↔ m.Holds p i ∧ ∀ c ∈ cs, c.id ≠ 0 → c.id ≠ i

variable (names : TableNames) (plan : Plan TableCall) (p : Int) (m : Memory)

/-- A row with the id is under the parent after some calls, as it was before or because they have
created it. -/
def Finds (before : List TableCall) (i : Int) : Prop :=
  m.Holds p i ∨ m.nextId ≤ i ∧ i < m.nextId + created before

/-- A call fails that is made after others, with the failure that comes of it. -/
inductive CallFails (before : List TableCall) : TableCall → Failure → Prop
  | listing {e : Failure} (raises : plan (m.calls ++ before) (.existing p) = some (.fail e)) :
      CallFails before (.existing p)
        (e.wrappedIn s!"failed to list existing {names.kind} ids for {names.parentKind} {p}")
  | creating {text : Option String} {e : Failure}
      (raises : plan (m.calls ++ before) (.create text) = some (.fail e)) :
      CallFails before (.create text)
        (e.wrappedIn s!"failed to create {names.kind} under {names.parentKind} {p}")
  | updating {i : Int} {e : Failure}
      (raises : plan (m.calls ++ before) (.update i (some p)) = some (.fail e)) :
      CallFails before (.update i (some p))
        (e.wrappedIn s!"failed to update {names.kind} {i} under {names.parentKind} {p}")
  | notUpdated {i : Int} (missed : plan (m.calls ++ before) (.update i (some p)) = some .noMatch ∨
        plan (m.calls ++ before) (.update i (some p)) = none ∧ ¬ Finds p m before i) :
      CallFails before (.update i (some p)) (.store (.missed names.notUpdated i))
  | deleting {i : Int} {e : Failure}
      (raises : plan (m.calls ++ before) (.delete i) = some (.fail e)) :
      CallFails before (.delete i)
        (e.wrappedIn s!"failed to delete {names.kind} {i} under {names.parentKind} {p}")
  /-- What is to be deleted is there, so that nothing but the plan lets a deletion find no row. -/
  | notDeleted {i : Int} (missed : plan (m.calls ++ before) (.delete i) = some .noMatch) :
      CallFails before (.delete i) (.store (.missed names.notDeleted i))
  | below {i : Int} {e : Failure} (raises : plan (m.calls ++ before) (.descend i) = some (.fail e)) :
      CallFails before (.descend i) (e.under s!"error upserting {names.kind} {i}")

/-- Calls are made one after the other, and none of them fails. -/
inductive Succeed : List TableCall → Prop
  | nil : Succeed []
  | snoc {before : List TableCall} {call : TableCall} (succeed : Succeed before)
      (passes : ∀ e, ¬ CallFails names plan p m before call e) : Succeed (before ++ [call])

/-! ## Calls that succeed -/

/-- From one state of the table to another, calls have been made that succeed. -/
structure Went (done : List TableCall) (s : Memory) : Prop where
  succeed : Succeed names plan p m done
  calls : s.calls = m.calls ++ done
  events : s.events = m.events ++ TableCall.events names.kind m.nextId done
  next : s.nextId = m.nextId + created done

/-- Besides, nothing has been deleted yet. -/
structure Placing (done : List TableCall) (s : Memory) : Prop extends Went names plan p m done s where
  holds : ∀ i, s.Holds p i ↔ Finds p m done i

variable {names plan p m} {done : List TableCall} {s s' : Memory} {call : TableCall} {e : Failure}
  {c c' : Choice} {cs cs' : List Choice}

theorem went_nil : Went names plan p m [] m where
  succeed := .nil
  calls := (List.append_nil _).symm
  events := (List.append_nil _).symm
  next := (Int.add_zero _).symm

theorem placing_nil : Placing names plan p m [] m where
  toWent := went_nil
  holds i := by
    have hnone : ¬ (m.nextId ≤ i ∧ i < m.nextId + created []) := fun h => by
      have hzero : created [] = 0 := rfl
      omega
    exact (or_iff_left hnone).symm

theorem Went.snoc (h : Went names plan p m done s)
    (passes : ∀ e, ¬ CallFails names plan p m done call e) (hcalls : s'.calls = s.calls ++ [call])
    (hevents : s'.events = s.events ++ event names.kind s.nextId call)
    (hnext : s'.nextId = s.nextId + created [call]) : Went names plan p m (done ++ [call]) s' where
  succeed := .snoc h.succeed passes
  calls := by rw [hcalls, h.calls, List.append_assoc]
  events := by
    rw [hevents, h.events, events_append, events_singleton, ← h.next, List.append_assoc]
  next := by rw [hnext, h.next, created_append, Int.add_assoc]

theorem Went.next_append {more : List TableCall} (h : Went names plan p m done s)
    (h' : Went names plan p m (done ++ more) s') : s'.nextId = s.nextId + created more := by
  rw [h'.next, h.next, created_append, Int.add_assoc]

/-- A call that creates no row finds the same rows. -/
theorem Placing.snoc (h : Placing names plan p m done s)
    (passes : ∀ e, ¬ CallFails names plan p m done call e) (hcalls : s'.calls = s.calls ++ [call])
    (hevents : s'.events = s.events ++ event names.kind s.nextId call)
    (hnext : s'.nextId = s.nextId) (hzero : created [call] = 0)
    (hholds : ∀ i, s'.Holds p i ↔ s.Holds p i) : Placing names plan p m (done ++ [call]) s' where
  toWent := h.toWent.snoc passes hcalls hevents (by rw [hnext, hzero, Int.add_zero])
  holds i := by
    rw [hholds, h.holds, Finds, Finds, created_append, hzero, Int.add_zero]

/-- At first, what is under the parent has been listed. -/
theorem placing_listed {ids : List Int} (hex : (table names plan).existing p m = (.ok ids, s)) :
    ids = m.under p ∧ s.nextId = m.nextId ∧ Placing names plan p m [.existing p] s := by
  obtain ⟨hfail, hids, rfl⟩ := existing_ok hex
  refine ⟨hids, rfl, placing_nil.snoc (fun e hf => ?_) rfl (List.append_nil _).symm rfl rfl
    fun _ => Iff.rfl⟩
  cases hf with
  | listing raises => exact hfail _ (List.append_nil m.calls ▸ raises)

theorem Placing.reset (h : Placing names plan p m done s)
    (hreset : (table names plan).reset (c, s) = (.ok (), (c', s'))) :
    c' = c ∧ s'.nextId = s.nextId ∧ Placing names plan p m (done ++ [.reset c.id]) s' := by
  cases hreset
  refine ⟨rfl, rfl, h.snoc (fun e hf => ?_) rfl (List.append_nil _).symm rfl rfl fun _ => Iff.rfl⟩
  cases hf

/-- After a row has been created, it is found, too. -/
theorem Placing.create (h : Placing names plan p m done s) (hp : c.questionId = p)
    (hcreate : (table names plan).create (c, s) = (.ok (), (c', s'))) :
    c' = { c with id := s.nextId } ∧ Placing names plan p m (done ++ [.create c.text])
      ((table names plan).note (.childCreated names.kind c'.id) s') := by
  obtain ⟨hfail, rfl, rfl⟩ := create_ok hcreate
  refine ⟨rfl, h.toWent.snoc (fun e hf => ?_) rfl rfl rfl, fun i => ?_⟩
  · cases hf with
    | creating raises => exact hfail _ (h.calls ▸ raises)
  · have hone : created [.create c.text] = 1 := rfl
    have hnext := h.next
    have hadd : ((table names plan).note (.childCreated names.kind s.nextId)
        (add c.questionId c.text (s.logged (.create c.text))).2).Holds p i ↔
          s.Holds p i ∨ c.questionId = p ∧ i = s.nextId := holds_add
    have hnonneg : 0 ≤ created done := Int.natCast_nonneg _
    rw [hadd, h.holds, Finds, Finds, created_append, hone, or_assoc]
    refine or_congr_right ⟨?_, fun hi => ?_⟩
    · rintro (hi | ⟨_, hi⟩) <;> omega
    · by_cases hlast : i = s.nextId
      · exact .inr ⟨hp, hlast⟩
      · exact .inl (by omega)

/-- A child that is there is updated. -/
theorem Placing.update {n : Nat} (h : Placing names plan p m done s) (hn : n ≠ 0)
    (hupdate : (table names plan).update (some p) (c, s) = (.ok n, (c', s'))) :
    c' = c ∧ Placing names plan p m (done ++ [.update c.id (some p)])
      ((table names plan).note (.childUpdated names.kind c'.id) s') := by
  obtain ⟨hplan, hholds, rfl, rfl⟩ := update_found hn hupdate
  refine ⟨rfl, h.snoc (fun e hf => ?_) rfl rfl rfl rfl fun _ => holds_setText⟩
  have hplan : plan (m.calls ++ done) (.update c'.id (some p)) = none := h.calls ▸ hplan
  cases hf with
  | updating raises =>
    rw [hplan] at raises
    cases raises
  | notUpdated missed =>
    rcases missed with missed | ⟨_, hlost⟩
    · rw [hplan] at missed
      cases missed
    · exact hlost ((h.holds _).mp hholds)

theorem Placing.descend (h : Placing names plan p m done s)
    (hdescend : (table names plan).descend (c, s) = (.ok (), (c', s'))) :
    c' = c ∧ s'.nextId = s.nextId ∧ Placing names plan p m (done ++ [.descend c.id]) s' := by
  obtain ⟨hcall, rfl⟩ := descend_eq.mp hdescend
  obtain ⟨hfail, hact⟩ := call_ok hcall
  obtain ⟨-, rfl⟩ := Prod.mk.inj hact
  refine ⟨rfl, rfl, h.snoc (fun e hf => ?_) rfl (List.append_nil _).symm rfl rfl fun _ => Iff.rfl⟩
  cases hf with
  | below raises => exact hfail _ (h.calls ▸ raises)

/-! ## Children -/

theorem Placing.writes {z : Choice × Memory} (h : Placing names plan p m done s)
    (hp : c.questionId = p) (hw : (table names plan).Writes (some p) (c, s) z) :
    z.1 = c.filed p s.nextId ∧ Placing names plan p m (done ++ writesOf p c) z.2 := by
  subst hp
  rcases hw with @⟨⟨_, s₁⟩, ⟨z, s₂⟩, new, ready, create⟩ | @⟨n, ⟨z, s₁⟩, old, update, found⟩
  · have hid : c.id = 0 := new
    obtain ⟨rfl, hnext, hreset⟩ := h.reset ready
    obtain ⟨rfl, hcreate⟩ := hreset.create rfl create
    rw [Choice.filed, writesOf, if_pos hid, if_pos hid, ← hnext]
    rw [hid, List.append_assoc] at hcreate
    exact ⟨rfl, hcreate⟩
  · have hid : c.id ≠ 0 := old
    obtain ⟨rfl, hupdate⟩ := h.update found update
    rw [Choice.filed, writesOf, if_neg hid, if_neg hid]
    exact ⟨rfl, hupdate⟩

theorem created_callsFor (next : Int) (c : Choice) :
    next + created (callsFor p next c) = c.following next := by
  unfold callsFor writesOf Choice.following
  split
  · rfl
  · exact Int.add_zero next

theorem Placing.place (h : Placing names plan p m done s)
    (hplace : (table names plan).place p (c, s) = (.ok (), (c', s'))) :
    c' = c.filed p s.nextId ∧ s'.nextId = c.following s.nextId ∧
      Placing names plan p m (done ++ callsFor p s.nextId c) s' := by
  obtain ⟨z, hwrites, hdescend⟩ := Reconciler.writes_of_upsert (Reconciler.place_eq_ok.mp hplace)
  obtain ⟨hz, hwritten⟩ := h.writes rfl hwrites
  obtain ⟨hc', -, hplaced⟩ := hwritten.descend hdescend
  rw [hz, List.append_assoc] at hplaced
  exact ⟨hc'.trans hz, (h.next_append hplaced.toWent).trans (created_callsFor _ c), hplaced⟩

/-- The children as they are stored under a parent, one after the other. -/
def numbered (p : Int) : Int → List Choice → List Choice
  | _, [] => []
  | next, c :: cs => c.filed p next :: numbered p (c.following next) cs

theorem Placing.eachOf (h : Placing names plan p m done s)
    (hplace : Attempt.eachOf ((table names plan).place p) cs s = (.ok (), (cs', s'))) :
    cs' = numbered p s.nextId cs ∧
      Placing names plan p m (done ++ upserts p s.nextId cs) s' := by
  induction cs generalizing done s cs' with
  | nil =>
    cases hplace
    exact ⟨rfl, by rwa [upserts, List.append_nil]⟩
  | cons c cs ih =>
    obtain ⟨c', s₁, cs₁, hc, hrest, rfl⟩ := eachOf_cons_eq_ok.mp hplace
    obtain ⟨rfl, hnext, hplaced⟩ := h.place hc
    obtain ⟨rfl, hall⟩ := ih hplaced hrest
    rw [hnext, List.append_assoc] at hall
    exact ⟨by rw [numbered, hnext], hall⟩

/-! ## Calls that fail -/

/-- From one state of the table to another, calls have been made that succeed, and then one that
fails. -/
structure Stops (names : TableNames) (plan : Plan TableCall) (p : Int) (m : Memory)
    (before : List TableCall) (call : TableCall) (e : Failure) (s : Memory) : Prop where
  succeed : Succeed names plan p m before
  fails : CallFails names plan p m before call e
  calls : s.calls = m.calls ++ (before ++ [call])
  events : s.events = m.events ++ TableCall.events names.kind m.nextId before

theorem Went.stops (h : Went names plan p m done s) (fails : CallFails names plan p m done call e)
    (hcalls : s'.calls = s.calls ++ [call]) (hevents : s'.events = s.events) :
    Stops names plan p m done call e s' where
  succeed := h.succeed
  fails := fails
  calls := by rw [hcalls, h.calls, List.append_assoc]
  events := hevents.trans h.events

theorem Placing.writeFails {z : Choice × Memory} (h : Placing names plan p m done s)
    (hp : c.questionId = p) (hw : (table names plan).WriteFails (some p) (c, s) e z) :
    ∃ before call, before ++ [call] <+: writesOf p c ∧
      Stops names plan p m (done ++ before) call e z.2 := by
  subst hp
  rcases hw with @⟨f, z, new, reset⟩ | @⟨f, ⟨_, s₁⟩, ⟨z, s₂⟩, new, ready, create⟩ |
    @⟨f, ⟨z, s₁⟩, old, update⟩ | @⟨⟨z, s₁⟩, old, update⟩
  · cases reset
  · have hid : c.id = 0 := new
    obtain ⟨rfl, -, hreset⟩ := h.reset ready
    obtain ⟨raises, rfl, rfl⟩ := create_error create
    rw [hid] at hreset
    refine ⟨[.reset 0], .create z.text, ?_, hreset.stops (.creating (hreset.calls ▸ raises)) rfl rfl⟩
    rw [writesOf, if_pos hid]
    exact List.prefix_rfl
  · have hid : c.id ≠ 0 := old
    obtain ⟨hwrite, rfl⟩ := update_eq.mp update
    obtain ⟨raises, rfl⟩ := write_error hwrite
    refine ⟨[], .update z.id (some z.questionId), ?_, ?_⟩
    · rw [writesOf, if_neg hid]
      exact List.prefix_rfl
    · rw [List.append_nil]
      exact h.stops (.updating (h.calls ▸ raises)) rfl rfl
  · have hid : c.id ≠ 0 := old
    obtain ⟨missed, rfl, hcalls, hevents⟩ := update_missed update
    refine ⟨[], .update z.id (some z.questionId), ?_, ?_⟩
    · rw [writesOf, if_neg hid]
      exact List.prefix_rfl
    · rw [List.append_nil]
      rw [h.calls, h.holds] at missed
      exact h.stops (.notUpdated missed) hcalls hevents

theorem Placing.place_error (h : Placing names plan p m done s)
    (hplace : (table names plan).place p (c, s) = (.error e, (c', s'))) :
    ∃ before call, before ++ [call] <+: callsFor p s.nextId c ∧
      Stops names plan p m (done ++ before) call e s' := by
  rw [Reconciler.place_eq_upsert] at hplace
  rcases (table names plan).upsert_error hplace with hw | ⟨⟨z, s₁⟩, f, hw, hd, rfl⟩
  · obtain ⟨before, call, hstart, hstops⟩ := h.writeFails rfl hw
    exact ⟨before, call, hstart.trans (List.prefix_append _ _), hstops⟩
  · obtain ⟨hz, hwritten⟩ := h.writes rfl hw
    obtain ⟨hcall, rfl⟩ := descend_eq.mp hd
    obtain ⟨raises, rfl⟩ := call_error hcall
    dsimp only at hz hwritten raises
    refine ⟨writesOf p c, .descend (c.filed p s.nextId).id, List.prefix_rfl, ?_⟩
    rw [hz] at raises ⊢
    exact hwritten.stops (.below (hwritten.calls ▸ raises)) rfl rfl

/-! ## Deletions -/

variable {i : Int} {ids : List Int}

theorem Went.discard (h : Went names plan p m done s)
    (hdiscard : (table names plan).discard p i s = (.ok (), s')) :
    Went names plan p m (done ++ [.delete i]) s' ∧ ∀ j, s'.Holds p j ↔ s.Holds p j ∧ j ≠ i := by
  obtain ⟨n, s₁, hn, hdelete, rfl⟩ := Reconciler.discard_eq_ok.mp hdiscard
  obtain ⟨hplan, rfl⟩ := delete_found hn hdelete
  refine ⟨h.snoc (fun e hf => ?_) rfl rfl (Int.add_zero _).symm, fun j => holds_remove⟩
  have hplan : plan (m.calls ++ done) (.delete i) = none := h.calls ▸ hplan
  cases hf with
  | deleting raises =>
    rw [hplan] at raises
    cases raises
  | notDeleted missed =>
    rw [hplan] at missed
    cases missed

theorem Went.discard_error (h : Went names plan p m done s) (hi : s.Holds p i)
    (hdiscard : (table names plan).discard p i s = (.error e, s')) :
    Stops names plan p m done (.delete i) e s' := by
  cases (table names plan).discard_eq_error.mp hdiscard with
  | deleting delete =>
    obtain ⟨raises, rfl⟩ := write_error delete
    exact h.stops (.deleting (h.calls ▸ raises)) rfl rfl
  | missing delete =>
    obtain ⟨missed, rfl⟩ := delete_missed hi delete
    exact h.stops (.notDeleted (h.calls ▸ missed)) rfl rfl

/-- Rows with other ids stay while some are deleted. -/
theorem Went.forAll (h : Went names plan p m done s)
    (hdiscard : Attempt.forAll ((table names plan).discard p) ids s = (.ok (), s')) :
    Went names plan p m (done ++ ids.map .delete) s' ∧
      ∀ j, s'.Holds p j ↔ s.Holds p j ∧ j ∉ ids := by
  induction ids generalizing done s with
  | nil =>
    cases hdiscard
    exact ⟨by rwa [List.map_nil, List.append_nil], fun j => by simp⟩
  | cons i ids ih =>
    obtain ⟨s₁, hi, hrest⟩ := forAll_cons_eq_ok.mp hdiscard
    obtain ⟨h₁, hholds⟩ := h.discard hi
    obtain ⟨h', hholds'⟩ := ih h₁ hrest
    rw [List.append_assoc] at h'
    refine ⟨h', fun j => ?_⟩
    rw [hholds', hholds, List.mem_cons, not_or, and_assoc]

theorem Went.forAll_error (h : Went names plan p m done s) (hids : ids.Nodup)
    (hholds : ∀ i ∈ ids, s.Holds p i)
    (hdiscard : Attempt.forAll ((table names plan).discard p) ids s = (.error e, s')) :
    ∃ front i, front ++ [i] <+: ids ∧
      Stops names plan p m (done ++ front.map .delete) (.delete i) e s' := by
  obtain ⟨front, i, rest, s₁, rfl, hfront, hi⟩ := forAll_eq_error.mp hdiscard
  obtain ⟨h₁, hleft⟩ := h.forAll hfront
  have hfresh : i ∉ front := fun hmem =>
    (List.nodup_append.mp hids).2.2 i hmem i List.mem_cons_self rfl
  have hthere : s.Holds p i := hholds i (List.mem_append_right _ List.mem_cons_self)
  refine ⟨front, i, ⟨rest, ?_⟩, h₁.discard_error ((hleft i).mpr ⟨hthere, hfresh⟩) hi⟩
  rw [List.append_assoc]
  rfl

/-! ## Whole reconciliations -/

theorem stale_staleIds : Stale p cs m (staleIds (m.under p) ((table names plan).kept cs)) where
  ascending := pairwise_ascending _
  mem i := by
    rw [mem_staleIds, mem_under, Reconciler.mem_kept]
    refine and_congr_right fun _ => ⟨fun hnot c hc h₀ he => ?_, ?_⟩
    · exact hnot ⟨he ▸ h₀, c, hc, he⟩
    · rintro hall ⟨h₀, c, hc, rfl⟩
      exact hall c hc h₀ rfl

/-- What comes of a reconciliation, given the ids that are stale and the calls that are made. -/
structure Follows (names : TableNames) (plan : Plan TableCall) (p : Int) (cs : List Choice) (m : Memory)
    (stale : List Int) (made : List TableCall) (result : Except Failure (List Int)) (m' : Memory) :
    Prop where
  calls : m'.calls = m.calls ++ made
  planned : made <+: course p cs stale m
  /-- Nothing is deleted before every child has been stored. -/
  stored : ∀ i, .delete i ∈ made → .existing p :: upserts p m.nextId cs <+: made
  /-- All calls are made and succeed, or they end with the first one that fails. -/
  ends : (result = .ok stale ∧ made = course p cs stale m ∧ Succeed names plan p m made ∧
      m'.events = m.events ++ TableCall.events names.kind m.nextId made) ∨
    ∃ before call e, made = before ++ [call] ∧ result = .error e ∧ Succeed names plan p m before ∧
      CallFails names plan p m before call e ∧
      m'.events = m.events ++ TableCall.events names.kind m.nextId before

theorem delete_not_mem_upserts {next : Int} : .delete i ∉ upserts p next cs := by
  induction cs generalizing next with
  | nil => exact List.not_mem_nil
  | cons c cs ih =>
    rw [upserts, List.mem_append, callsFor, List.mem_append, writesOf]
    split <;> simp [ih]

theorem stored_of_planned {stale : List Int} {made : List TableCall}
    (h : made <+: course p cs stale m) (hi : .delete i ∈ made) :
    .existing p :: upserts p m.nextId cs <+: made := by
  rcases List.prefix_or_prefix_of_prefix h (List.prefix_append _ _) with hshort | hlong
  · rcases List.mem_cons.mp (hshort.subset hi) with hmem | hmem
    · cases hmem
    · exact absurd hmem delete_not_mem_upserts
  · exact hlong

theorem Went.follows {stale : List Int} (h : Went names plan p m (course p cs stale m) s) :
    Follows names plan p cs m stale (course p cs stale m) (.ok stale) s where
  calls := h.calls
  planned := List.prefix_rfl
  stored _ := stored_of_planned List.prefix_rfl
  ends := .inl ⟨rfl, rfl, h.succeed, h.events⟩

theorem Stops.follows {stale : List Int} (h : Stops names plan p m done call e s)
    (hplanned : done ++ [call] <+: course p cs stale m) :
    Follows names plan p cs m stale (done ++ [call]) (.error e) s where
  calls := h.calls
  planned := hplanned
  stored _ := stored_of_planned hplanned
  ends := .inr ⟨done, call, e, rfl, rfl, h.succeed, h.fails, h.events⟩

theorem upserts_append (next : Int) (front rest : List Choice) :
    upserts p next (front ++ rest) =
      upserts p next front ++ upserts p (next + created (upserts p next front)) rest := by
  induction front generalizing next with
  | nil => exact congrArg (upserts p · rest) (Int.add_zero next).symm
  | cons c front ih =>
    rw [List.cons_append, upserts, upserts, ih, created_append, ← Int.add_assoc, created_callsFor,
      List.append_assoc]

section Outcomes

variable {stale : List Int}

theorem follows_of_place_error {rest us : List Choice} {s₁ s₂ : Memory}
    (reaches : (table names plan).Reaches p cs m us c rest s₁)
    (hplace : (table names plan).place p (c, s₁) = (.error e, (c', s₂))) :
    ∃ made, Follows names plan p cs m stale made (.error e) s₂ := by
  obtain ⟨front, ids, s, rfl, hexisting, hfront⟩ := reaches
  obtain ⟨-, hnext, hlisted⟩ := placing_listed hexisting
  obtain ⟨-, hplaced⟩ := hlisted.eachOf hfront
  obtain ⟨before, call, ⟨more, hbefore⟩, hstops⟩ := hplaced.place_error hplace
  have hnext₁ := hlisted.next_append hplaced.toWent
  rw [hnext] at hnext₁
  refine ⟨_, hstops.follows ⟨more ++ upserts p (c.following s₁.nextId) rest ++ stale.map .delete, ?_⟩⟩
  rw [course, upserts_append, ← hnext₁, upserts, ← hbefore, hnext]
  simp only [List.append_assoc, List.cons_append, List.nil_append]

theorem follows_of_discard_error {s₁ s₂ : Memory}
    (hexisting : (table names plan).existing p m = (.ok ids, s))
    (hplace : Attempt.eachOf ((table names plan).place p) cs s = (.ok (), (cs', s₁)))
    (hstale : Stale p cs m stale)
    (hdiscard : Attempt.forAll ((table names plan).discard p) stale s₁ = (.error e, s₂)) :
    ∃ made, Follows names plan p cs m stale made (.error e) s₂ := by
  obtain ⟨-, hnext, hlisted⟩ := placing_listed hexisting
  obtain ⟨-, hplaced⟩ := hlisted.eachOf hplace
  have hthere : ∀ i ∈ stale, s₁.Holds p i := fun i hi =>
    (hplaced.holds i).mpr (.inl ((hstale.mem i).mp hi).1)
  obtain ⟨front, i, ⟨rest, rfl⟩, hstops⟩ := hplaced.toWent.forAll_error
    (hstale.ascending.imp Int.ne_of_lt) hthere hdiscard
  refine ⟨_, hstops.follows ⟨rest.map .delete, ?_⟩⟩
  rw [course, hnext]
  simp only [List.map_append, List.map_cons, List.append_assoc, List.cons_append,
    List.nil_append]

theorem follows_of_error
    (h : (table names plan).reconcile p (cs, m) = (.error e, (cs', s))) :
    ∃ made, Follows names plan p cs m (staleIds (m.under p) ((table names plan).kept cs)) made
      (.error e) s := by
  rcases (table names plan).reconcile_error_cases h with hitself | ⟨z, f, u, hbelow, rfl⟩
  · cases hitself with
    | listing existing =>
      obtain ⟨raises, rfl⟩ := call_error existing
      have hstops : Stops names plan p m [] (.existing p) _ (m.logged (.existing p)) :=
        went_nil.stops (.listing (by rwa [List.append_nil])) rfl rfl
      exact ⟨_, hstops.follows ⟨_, rfl⟩⟩
    | writing reaches fails =>
      have hplace := (table names plan).upsert_of_writeFails fails
      rw [← Reconciler.place_eq_upsert] at hplace
      exact follows_of_place_error reaches hplace
    | discarding existing placed stale discarded fails =>
      obtain ⟨rfl, -, -⟩ := placing_listed existing
      refine follows_of_discard_error existing placed stale_staleIds ?_
      exact forAll_eq_error.mpr ⟨_, _, _, _, stale, discarded,
        (table names plan).discard_eq_error.mpr fails⟩
  · cases hbelow with
    | intro reaches writes descend =>
      have hplace := (table names plan).upsert_of_writes writes descend
      rw [← Reconciler.place_eq_upsert] at hplace
      exact follows_of_place_error reaches hplace

theorem follows_of_ok (h : (table names plan).reconcile p (cs, m) = (.ok ids, (cs', s))) :
    ids = staleIds (m.under p) ((table names plan).kept cs) ∧
      Follows names plan p cs m ids (course p cs ids m) (.ok ids) s := by
  obtain ⟨existing, s₁, s₂, hexisting, hplace, hids, hdiscard⟩ := Reconciler.reconcile_eq_ok.mp h
  obtain ⟨rfl, hnext, hlisted⟩ := placing_listed hexisting
  obtain ⟨-, hplaced⟩ := hlisted.eachOf hplace
  obtain ⟨hdeleted, -⟩ := hplaced.toWent.forAll hdiscard
  rw [hnext] at hdeleted
  exact ⟨hids, hdeleted.follows⟩

end Outcomes

/-- Whatever the plan, a reconciliation follows its course up to the first call that fails. -/
theorem reconcile_follows (names : TableNames) (plan : Plan TableCall) (p : Int) (cs : List Choice)
    (m : Memory) : ∃ stale made, Stale p cs m stale ∧
      Follows names plan p cs m stale made ((table names plan).reconcile p (cs, m)).1
        ((table names plan).reconcile p (cs, m)).2.2 := by
  have hstale : Stale p cs m (staleIds (m.under p) ((table names plan).kept cs)) := stale_staleIds
  rcases hreconcile : (table names plan).reconcile p (cs, m) with ⟨e | ids, cs', m'⟩
  · obtain ⟨made, hfollows⟩ := follows_of_error hreconcile
    exact ⟨_, made, hstale, hfollows⟩
  · obtain ⟨rfl, hfollows⟩ := follows_of_ok hreconcile
    exact ⟨_, _, hstale, hfollows⟩

end Memory

end TriviaStore
