import TriviaStore.Proofs.Reconcile.Accepts
import TriviaStore.Proofs.Store.Append
import TriviaStore.Proofs.Tables.Room

/-! # What can be placed

A list of choices can be placed under a stored question if nothing is missing in them, every choice
that has an id is stored under the question, and there is room for the others. Likewise for
questions under a stored quiz with everything below them. Placing the first of them leaves the
others as they are, and discarding takes away nothing that is still needed, so that undisturbed
reconciliations of such lists succeed.
-/

namespace TriviaStore

open Attempt

variable {plan : Plan Statement} {c c' : Connection} {T t' : Tables} {p id : Int} {m n : Nat}

/-- Nothing is missing that a choice's row needs. -/
structure Choice.Admissible (x : Choice) : Prop where
  text : x.text.isSome = true
  correct : x.correct.isSome = true

/-- Nothing is missing that the row of a question and the rows below it need. -/
structure Question.Insertable (q : Question) : Prop where
  position : ∃ position, q.position = some position ∧ fits position = true
  choices : ∀ x ∈ q.choices, x.Admissible

instance (x : Choice) : Decidable x.Admissible :=
  decidable_of_iff (x.text.isSome = true ∧ x.correct.isSome = true)
    ⟨fun ⟨ht, hc⟩ => ⟨ht, hc⟩, fun ⟨ht, hc⟩ => ⟨ht, hc⟩⟩

instance (q : Question) : Decidable q.Insertable :=
  decidable_of_iff (q.position.any fits = true ∧ ∀ x ∈ q.choices, x.Admissible)
    ⟨fun ⟨hp, hx⟩ => ⟨(Option.any_eq_true _ _).mp hp, hx⟩,
      fun ⟨hp, hx⟩ => ⟨(Option.any_eq_true _ _).mpr hp, hx⟩⟩

/-- Overwriting a row besides needs the texts that inserting one fills in. -/
structure Question.Admissible (q : Question) : Prop extends q.Insertable where
  texts : q.id ≠ 0 → q.text.isSome = true ∧ q.imageUrl.isSome = true

instance (q : Question) : Decidable q.Admissible :=
  decidable_of_iff (q.Insertable ∧ (q.id ≠ 0 → q.text.isSome = true ∧ q.imageUrl.isSome = true))
    ⟨fun ⟨hi, ht⟩ => ⟨hi, ht⟩, fun ⟨hi, ht⟩ => ⟨hi, ht⟩⟩

/-! ## Choices -/

namespace Choice

/-- The session can take some choices under a stored question, and has room for some more. -/
structure Ready (T : Tables) (p : Int) (more : Nat) (xs : List Choice) (c : Connection) : Prop where
  around : Around T c
  parent : ∃ q ∈ T.questions, q.id = p
  admissible : ∀ x ∈ xs, x.Admissible
  stored : ∀ x ∈ xs, x.id ≠ 0 → ∃ r, c.working.choiceUnder p x.id = some r
  room : Room (c.working.choices.map (·.id)) (xs.countP (·.id == 0) + more)

theorem Ready.fits_parent {xs : List Choice} (h : Ready T p n xs c) : fits p = true := by
  obtain ⟨q, hq, rfl⟩ := h.parent
  exact h.around.sound.questions_fit q (h.around.questions ▸ hq)

/-- Whatever is placed or discarded, the choices still to be placed can be placed. -/
theorem carries : (reconciler plan).Carries p (Ready T p n) where
  existing {xs c c' ids} h he := by
    obtain ⟨-, -, hw⟩ := existing_ok he
    exact
      { h with
        around := ⟨hw ▸ h.around.sound, hw ▸ h.around.quizzes, hw ▸ h.around.questions⟩
        stored := hw ▸ h.stored, room := hw ▸ h.room }
  place {x x' xs c c'} h hp := by
    obtain ⟨haround, hplaced⟩ := (view plan T).place h.around hp
    obtain ⟨r, _, ho, hrows⟩ := hplaced.row
    have hroom : Room (c'.working.choices.map (·.id)) (xs.countP (·.id == 0) + n) := by
      have hroom := h.room
      by_cases hx : x.id = 0
      · rw [List.countP_cons_of_pos (by simpa using hx), Nat.add_right_comm] at hroom
        obtain ⟨_, _, hi, _, rfl⟩ := place_new hx hp
        exact Tables.insertChoice_room hi hroom
      · rw [List.countP_cons_of_neg (by simpa using hx)] at hroom
        obtain ⟨_, _, _, hu, _, rfl⟩ := place_old hx hp
        rwa [Tables.updateChoice_ids hu]
    refine
      { around := haround, parent := h.parent, room := hroom
        admissible := fun y hy => h.admissible y (List.mem_cons_of_mem _ hy)
        stored := fun y hy hid => ?_ }
    obtain ⟨s, hs⟩ := h.stored y (List.mem_cons_of_mem _ hy) hid
    have hat : c'.working.choiceAt y.id =
        if y.id = x'.id then some r else c.working.choiceAt y.id := hrows y.id
    have ho : r.questionId = p := ho
    rw [Tables.choiceUnder, hat]
    split
    · exact ⟨r, by simp [ho]⟩
    · exact ⟨s, hs⟩
  discard {i c c'} h hd := by
    obtain ⟨haround, _⟩ := (view plan T).discard h.around hd
    obtain ⟨_, _, hn, hdelete, rfl⟩ := Reconciler.discard_eq_ok.mp hd
    have hsub := Tables.deleteChoice_subset (Connection.write_ok hdelete hn)
    exact
      { h with
        around := haround, stored := fun _ hx => absurd hx List.not_mem_nil
        room := h.room.of_subset h.around.sound.choice_ids_pos (List.map_subset _ hsub) }

theorem insert_ok {x : Choice} {xs : List Choice} (h : Ready T p n (x :: xs) c) (hx : x.id = 0) :
    ∃ id t', c.working.insertChoice p x.text x.correct = .ok (id, t') := by
  obtain ⟨htext, hcorrect⟩ := h.admissible x List.mem_cons_self
  obtain ⟨text, htext⟩ := Option.isSome_iff_exists.mp htext
  obtain ⟨correct, hcorrect⟩ := Option.isSome_iff_exists.mp hcorrect
  have hroom := h.room
  rw [List.countP_cons_of_pos (by simpa using hx), Nat.add_right_comm] at hroom
  have hfits := hroom.fits_freshId h.around.sound.choice_ids_pos
  exact ⟨_, _, Tables.insertChoice_eq_ok.mpr ⟨h.fits_parent, text, correct, htext, hcorrect,
    h.around.questions ▸ h.parent, rfl, hfits, rfl⟩⟩

theorem overwrite_ok {x : Choice} {xs : List Choice} (h : Ready T p n (x :: xs) c) (hx : x.id ≠ 0) :
    ∃ t', c.working.updateChoice x.id (some p) x.text x.correct = .ok (1, t') := by
  obtain ⟨htext, hcorrect⟩ := h.admissible x List.mem_cons_self
  obtain ⟨r, hr⟩ := h.stored x List.mem_cons_self hx
  obtain ⟨hr, ho⟩ := Option.filter_eq_some_iff.mp hr
  obtain ⟨hmem, hid⟩ := h.around.sound.choices.rowAt_eq_some.mp hr
  exact Tables.updateChoice_of_row hr (by simpa using ho) (hid ▸ h.around.sound.choices_fit r hmem)
    h.fits_parent htext hcorrect

theorem accepts : (view .quiet T).Accepts p (Ready T p n) where
  toCarries := carries
  inv h := h.around
  existing_ok h := ⟨_, _, existing_quiet h.fits_parent⟩
  place_ok {x xs c} h := by
    by_cases hx : x.id = 0
    · obtain ⟨id, t', hi⟩ := insert_ok h hx
      obtain ⟨z, hcreate⟩ : ∃ z, (reconciler .quiet).create ({ x with questionId := p }, c) =
          (.ok (), z) := by
        rw [reconciler_create]
        exact ⟨_, assigning_eq_ok.mpr ⟨id, _, Connection.insert_quiet hi, rfl⟩⟩
      exact ⟨_, _, Reconciler.place_eq_ok.mpr
        (Reconciler.upsert_eq_ok.mpr (.inl ⟨hx, _, _, rfl, hcreate, rfl⟩))⟩
    · obtain ⟨t', hu⟩ := overwrite_ok h hx
      obtain ⟨c', hplace⟩ := place_quiet hx hu
      exact ⟨_, c', hplace⟩
  discard_ok h hr := discard_quiet h.around.sound hr

/-- What has been placed was not missing anything. -/
theorem admissible_of_place {x : Choice} {y : Choice × Connection}
    (h : (reconciler plan).place p (x, c) = (.ok (), y)) : x.Admissible := by
  by_cases hx : x.id = 0
  · obtain ⟨_, _, hi, _⟩ := place_new hx h
    obtain ⟨_, text, correct, htext, hcorrect, _⟩ := Tables.insertChoice_eq_ok.mp hi
    exact ⟨by simp [htext], by simp [hcorrect]⟩
  · obtain ⟨_, _, hn, hu, _⟩ := place_old hx h
    obtain ⟨_, ⟨_, rfl, _⟩ | ⟨_, text, correct, htext, hcorrect, _⟩⟩ :=
      Tables.updateChoice_eq_ok.mp hu
    · exact absurd rfl hn
    · exact ⟨by simp [htext], by simp [hcorrect]⟩

end Choice

/-! ## Questions -/

namespace Question

/-- How many of the choices of some questions are to be inserted. -/
def newChoices (qs : List Question) : Nat := (qs.flatMap desired).countP (·.id == 0)

theorem newChoices_cons (q : Question) (qs : List Question) :
    newChoices (q :: qs) = q.desired.countP (·.id == 0) + newChoices qs := by
  simp only [newChoices, List.flatMap_cons, List.countP_append]

theorem admissible_desired {q : Question} (h : ∀ x ∈ q.choices, x.Admissible) :
    ∀ x ∈ q.desired, x.Admissible := by
  unfold desired
  split
  · intro x hx
    obtain ⟨y, hy, rfl⟩ := List.mem_map.mp hx
    exact ⟨(h y hy).text, (h y hy).correct⟩
  · exact h

/-- A question is stored under a quiz, and those of its choices that have ids under it. -/
structure StoredUnder (t : Tables) (p : Int) (q : Question) : Prop where
  row : ∃ r, t.questionUnder p q.id = some r
  choices : ∀ x ∈ q.choices, x.id ≠ 0 → ∃ r, t.choiceUnder q.id x.id = some r

/-- The session can take some questions under a stored quiz, and has room for some more questions
and choices. -/
structure Ready (T : Tables) (p : Int) (more below : Nat) (qs : List Question) (c : Connection) :
    Prop where
  sound : c.working.Sound
  quizzes : c.working.quizzes = T.quizzes
  parent : ∃ r ∈ T.quizzes, r.id = p
  admissible : ∀ q ∈ qs, q.Admissible
  distinct : qs.Pairwise fun a b => b.id ≠ 0 → a.id ≠ b.id
  stored : ∀ q ∈ qs, q.id ≠ 0 → q.StoredUnder c.working p
  questions : Room (c.working.questions.map (·.id)) (qs.countP (·.id == 0) + more)
  choices : Room (c.working.choices.map (·.id)) (newChoices qs + below)

namespace Ready

variable {q q' : Question} {qs : List Question}

theorem fits_parent (h : Ready T p m n qs c) : fits p = true := by
  obtain ⟨r, hr, rfl⟩ := h.parent
  exact h.sound.quizzes_fit r (h.quizzes ▸ hr)

/-- Once the row of a new question is inserted, its choices can be placed below it. -/
theorem below_inserted (h : Ready T p m n (q :: qs) c) (c₁ : Connection) (hq : q.id = 0)
    (hi : c.working.insertQuestion p q.text q.imageUrl q.position = .ok (id, c₁.working)) :
    Choice.Ready c₁.working id (newChoices qs + n) q.desired c₁ ∧
      Room (c₁.working.questions.map (·.id)) (qs.countP (·.id == 0) + m) := by
  have hquestions := h.questions
  have hchoices := h.choices
  rw [List.countP_cons_of_pos (by simpa using hq), Nat.add_right_comm] at hquestions
  rw [newChoices_cons, Nat.add_assoc] at hchoices
  obtain ⟨_, position, _, _, _, _, _, ht⟩ := Tables.insertQuestion_eq_ok.mp hi
  refine ⟨?_, Tables.insertQuestion_room hi hquestions⟩
  exact
    { around := around_self (h.sound.insertQuestion hi)
      parent := ⟨_, by rw [ht]; exact List.mem_append_right _ List.mem_cons_self, rfl⟩
      admissible := admissible_desired (h.admissible q List.mem_cons_self).choices
      stored := fun x hx hid => absurd (desired_new hq x hx) hid
      room := by rw [ht]; exact hchoices }

/-- So they can once the row of a question that has an id is overwritten. -/
theorem below_updated {k : Nat} (h : Ready T p m n (q :: qs) c) (c₁ : Connection)
    (hq : q.id ≠ 0) (hk : k ≠ 0) (hu : c.working.updateQuestion q.id (some p) q.text q.imageUrl q.position =
      .ok (k, c₁.working)) :
    Choice.Ready c₁.working q.id (newChoices qs + n) q.desired c₁ ∧
      Room (c₁.working.questions.map (·.id)) (qs.countP (·.id == 0) + m) := by
  have hquestions := h.questions
  have hchoices := h.choices
  rw [List.countP_cons_of_neg (by simpa using hq)] at hquestions
  rw [newChoices_cons, Nat.add_assoc] at hchoices
  obtain ⟨_, _, _, _, _, _, _, hxs, _, hat⟩ := Tables.updateQuestion_at h.sound hk hu
  have hrow := hat q.id
  rw [if_pos rfl] at hrow
  refine ⟨?_, by rwa [Tables.updateQuestion_ids hu]⟩
  refine
    { around := around_self (h.sound.updateQuestion hu)
      parent := ⟨_, mem_of_rowAt hrow, rfl⟩
      admissible := admissible_desired (h.admissible q List.mem_cons_self).choices
      stored := fun x hx hid => ?_
      room := by rw [hxs]; exact hchoices }
  rw [desired_old hq] at hx
  rw [Tables.choiceUnder, Tables.choiceAt, hxs]
  exact (h.stored q List.mem_cons_self hq).choices x hx hid

/-- Placing the first question leaves the rows that the others name. -/
theorem rest {c₁ : Connection} (h : Ready T p m n (q :: qs) c)
    (hpl : Placement plan p q c q' c₁ c')
    (hquestions : Room (c'.working.questions.map (·.id)) (qs.countP (·.id == 0) + m))
    (hchoices : Room (c'.working.choices.map (·.id)) (newChoices qs + n)) :
    Ready T p m n qs c' := by
  obtain ⟨hne, hdistinct⟩ := List.pairwise_cons.mp h.distinct
  refine
    { sound := hpl.below.inv.sound, parent := h.parent, distinct := hdistinct
      quizzes := (hpl.below.inv.quizzes.trans hpl.quizzes).trans h.quizzes
      admissible := fun d hd => h.admissible d (List.mem_cons_of_mem _ hd)
      stored := fun d hd hid => ?_, questions := hquestions, choices := hchoices }
  obtain ⟨⟨r, hr⟩, hstored⟩ := h.stored d (List.mem_cons_of_mem _ hd) hid
  have hother : d.id ≠ q'.id := by
    by_cases hq : q.id = 0
    · exact Int.ne_of_lt (hpl.fresh hq d.id r (Option.filter_eq_some_iff.mp hr).1)
    · rw [(hpl.owned hq).1]
      exact (hne d hd hid).symm
  obtain ⟨_, _, _, hat⟩ := hpl.row
  refine ⟨⟨r, ?_⟩, fun x hx hx₀ => ?_⟩
  · rwa [Tables.questionUnder, hpl.questionAt, hat, if_neg hother]
  · rw [hpl.choiceUnder, if_neg hother]
    exact hstored x hx hx₀

end Ready

/-- Whatever is placed or discarded, the questions still to be placed can be placed. -/
theorem carries : (reconciler plan).Carries p (Ready T p m n) where
  existing {qs c c' ids} h he := by
    obtain ⟨-, -, hw⟩ := existing_ok he
    exact
      { h with
        sound := hw ▸ h.sound, quizzes := hw ▸ h.quizzes, stored := hw ▸ h.stored
        questions := hw ▸ h.questions, choices := hw ▸ h.choices }
  place {q q' qs c c'} h hp := by
    obtain ⟨_, hpl⟩ := place_ok h.sound hp
    -- The choices below are reconciled in a session with room for them and for those of the rest.
    obtain ⟨i, ids, c₁, ⟨hready, hroom⟩, hr⟩ : ∃ i ids c₁,
        (Choice.Ready c₁.working i (newChoices qs + n) q.desired c₁ ∧
          Room (c₁.working.questions.map (·.id)) (qs.countP (·.id == 0) + m)) ∧
        (Choice.reconciler plan).reconcile i (q.desired, c₁) = (.ok ids, (q'.choices, c')) := by
      by_cases hq : q.id = 0
      · obtain ⟨i, c₁, ids, hi, hr, _⟩ := place_new hq hp
        exact ⟨i, ids, c₁, h.below_inserted c₁ hq hi, hr⟩
      · obtain ⟨_, c₁, ids, hk, hu, hr, _⟩ := place_old hq hp
        exact ⟨q.id, ids, c₁, h.below_updated c₁ hq hk hu, hr⟩
    have hend := Choice.carries.reconcile hready hr
    refine h.rest hpl ?_ ?_
    · rwa [hend.around.questions]
    · simpa using hend.room
  discard {i c c'} h hd := by
    obtain ⟨⟨hsound, hquizzes⟩, _⟩ := (view plan T).discard ⟨h.sound, h.quizzes⟩ hd
    obtain ⟨_, _, hn, hdelete, rfl⟩ := Reconciler.discard_eq_ok.mp hd
    obtain ⟨hqs, hxs⟩ := Tables.deleteQuestion_subset (Connection.write_ok hdelete hn)
    exact
      { h with
        sound := hsound, quizzes := hquizzes, stored := fun _ hx => absurd hx List.not_mem_nil
        questions := h.questions.of_subset h.sound.question_ids_pos (List.map_subset _ hqs)
        choices := h.choices.of_subset h.sound.choice_ids_pos (List.map_subset _ hxs) }

namespace Ready

variable {q : Question} {qs : List Question}

theorem insert_ok (h : Ready T p m n (q :: qs) c) (hq : q.id = 0) :
    ∃ id t', c.working.insertQuestion p q.text q.imageUrl q.position = .ok (id, t') := by
  obtain ⟨position, hposition, hfits⟩ := (h.admissible q List.mem_cons_self).position
  have hroom := h.questions
  rw [List.countP_cons_of_pos (by simpa using hq), Nat.add_right_comm] at hroom
  exact ⟨_, _, Tables.insertQuestion_eq_ok.mpr ⟨h.fits_parent, position, hposition, hfits,
    h.quizzes ▸ h.parent, rfl, hroom.fits_freshId h.sound.question_ids_pos, rfl⟩⟩

theorem overwrite_ok (h : Ready T p m n (q :: qs) c) (hq : q.id ≠ 0) :
    ∃ t', c.working.updateQuestion q.id (some p) q.text q.imageUrl q.position = .ok (1, t') := by
  have hadmissible := h.admissible q List.mem_cons_self
  obtain ⟨position, hposition, hfits⟩ := hadmissible.position
  obtain ⟨htext, himage⟩ := hadmissible.texts hq
  obtain ⟨r, hr⟩ := (h.stored q List.mem_cons_self hq).row
  obtain ⟨hr, ho⟩ := Option.filter_eq_some_iff.mp hr
  obtain ⟨hmem, hid⟩ := h.sound.questions.rowAt_eq_some.mp hr
  have hall : ∀ x ∈ q.position.toList ++ q.id :: (some p).toList, fits x = true := by
    have hq := hid ▸ h.sound.questions_fit r hmem
    simp [hposition, hfits, hq, h.fits_parent]
  exact Tables.updateQuestion_of_row hr (by simpa using ho) hall htext himage (by simp [hposition])

end Ready

/-- Choices that can be placed below a question are reconciled there. -/
theorem reconcileChoices_ok {q : Question} (h : Choice.Ready T q.id n q.choices c) :
    ∃ y, reconcileChoices .quiet (q, c) = (.ok (), y) := by
  obtain ⟨ids, choices, c', hr⟩ := Choice.accepts.reconcile h
  exact ⟨_, reconcileChoices_eq_ok.mpr ⟨ids, choices, c', hr, rfl⟩⟩

theorem accepts : (view .quiet T).Accepts p (Ready T p m n) where
  toCarries := carries
  inv h := ⟨h.sound, h.quizzes⟩
  existing_ok h := ⟨_, _, existing_quiet h.fits_parent⟩
  place_ok {q qs c} h := by
    by_cases hq : q.id = 0
    · obtain ⟨id, t', hi⟩ := h.insert_ok hq
      have hcreate : (reconciler .quiet).create ({ q.forgetChoices with quizId := p }, c) =
          (.ok (), ({ q.forgetChoices with quizId := p, id := id },
            { c with working := t', issued := c.issued ++ [.insert .questions] })) := by
        rw [reconciler_create]
        exact assigning_eq_ok.mpr ⟨id, _, Connection.insert_quiet hi, rfl⟩
      let c₁ : Connection :=
        ({ c with working := t', issued := c.issued ++ [.insert .questions] } : Connection).note
          (.childCreated "question" id)
      have hbelow := (h.below_inserted c₁ hq hi).1
      rw [desired, if_pos hq] at hbelow
      obtain ⟨y, hdescend⟩ := reconcileChoices_ok
        (q := { q.forgetChoices with quizId := p, id := id }) hbelow
      exact ⟨y.1, y.2, Reconciler.place_eq_ok.mpr
        (Reconciler.upsert_eq_ok.mpr (.inl ⟨hq, _, _, rfl, hcreate, hdescend⟩))⟩
    · obtain ⟨t', hu⟩ := h.overwrite_ok hq
      obtain ⟨c₁, rfl, hplace⟩ := place_quiet hq hu
      have hbelow := (h.below_updated c₁ hq Nat.one_ne_zero hu).1
      rw [desired_old hq] at hbelow
      obtain ⟨ids, xs, c', hr⟩ := Choice.accepts.reconcile hbelow
      exact ⟨_, c', hplace ids xs c' hr⟩
  discard_ok h hr := by
    obtain ⟨row, hrow, -⟩ := Option.map_eq_some_iff.mp hr
    exact discard_quiet h.sound hrow

/-- What has been placed was not missing anything, nor was anything below it. -/
theorem admissible_of_place {q : Question} {y : Question × Connection} (hs : c.working.Sound)
    (h : (reconciler plan).place p (q, c) = (.ok (), y)) : q.Admissible := by
  by_cases hq : q.id = 0
  · obtain ⟨id, c₁, ids, hi, hr, _⟩ := place_new hq h
    obtain ⟨_, position, hposition, hfits, _⟩ := Tables.insertQuestion_eq_ok.mp hi
    have hall := (Choice.view plan c₁.working).forall_of_reconcile
      (P := Choice.Admissible) (fun _ hp => Choice.admissible_of_place hp)
      (around_self (hs.insertQuestion hi)) hr
    refine ⟨⟨⟨position, hposition, hfits⟩, fun x hx => ?_⟩, fun hne => absurd hq hne⟩
    rw [desired, if_pos hq] at hall
    exact ⟨(hall _ (List.mem_map_of_mem hx)).text, (hall _ (List.mem_map_of_mem hx)).correct⟩
  · obtain ⟨k, c₁, ids, hk, hu, hr, _⟩ := place_old hq h
    obtain ⟨hfits, ⟨_, rfl, _⟩ | ⟨_, text, image, position, htext, himage, hposition, _⟩⟩ :=
      Tables.updateQuestion_eq_ok.mp hu
    · exact absurd rfl hk
    have hall := (Choice.view plan c₁.working).forall_of_reconcile
      (P := Choice.Admissible) (fun _ hp => Choice.admissible_of_place hp)
      (around_self (hs.updateQuestion hu)) hr
    rw [desired_old hq] at hall
    exact ⟨⟨⟨position, hposition, hfits position (by simp [hposition])⟩, hall⟩,
      fun _ => ⟨by simp [htext], by simp [himage]⟩⟩

end Question

/-- Questions that can be placed below a quiz are reconciled there. -/
theorem Store.reconcileQuestions_ok {v : Quiz} (clock : Instant)
    (h : Question.Ready T v.id m n v.questions c) :
    ∃ y, reconcileQuestions ⟨clock, .quiet⟩ (v, c) = (.ok (), y) := by
  obtain ⟨ids, questions, c', hr⟩ := Question.accepts.reconcile h
  exact ⟨_, reconcileQuestions_eq_ok.mpr ⟨ids, questions, c', hr, rfl⟩⟩

end TriviaStore
