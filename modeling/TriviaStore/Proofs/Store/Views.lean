import TriviaStore.Proofs.Connection.Success
import TriviaStore.Proofs.Reconcile.View
import TriviaStore.Proofs.Tables.Lookup

/-! # Stored children by id

The views behind reconciling the choices under their questions and the questions under their quizzes.
What is stored of a question includes the choices under it, so that placing a question, which goes
on to reconcile its choices, is again seen to set what is stored under one id and nothing else.
-/

namespace TriviaStore

open Attempt

variable {plan : Plan Statement} {c c' : Connection} {p : Int}

/-! ## Choices -/

/-- The row that a choice is stored as. -/
def Choice.row? (x : Choice) : Option ChoiceRow :=
  match x.text, x.correct with
  | some text, some correct => some ⟨x.id, x.questionId, text, flag correct⟩
  | _, _ => none

namespace Choice

/-- Reconciling choices leaves the other tables as they are. -/
structure Around (T : Tables) (c : Connection) : Prop where
  sound : c.working.Sound
  quizzes : c.working.quizzes = T.quizzes
  questions : c.working.questions = T.questions

theorem reconciler_existing (p : Int) : (reconciler plan).existing p =
    Connection.query plan .choices fun t => (t.choicesOf p).map (·.map (·.id)) := rfl

/-- The ids under a question are read, and nothing is changed. -/
theorem existing_ok {ids : List Int} (h : (reconciler plan).existing p c = (.ok ids, c')) :
    fits p = true ∧ ids = (c.working.choices.filter (·.questionId == p)).map (·.id) ∧
      c'.working = c.working := by
  rw [reconciler_existing] at h
  obtain ⟨hids, hw⟩ := Connection.query_ok h
  obtain ⟨rows, hrows, rfl⟩ := Except.map_eq_ok.mp hids
  obtain ⟨hfit, rfl⟩ := Tables.choicesOf_eq_ok.mp hrows
  exact ⟨hfit, rfl, hw⟩

/-- Undisturbed, the ids under a question can be read. -/
theorem existing_quiet (hp : fits p = true) : (reconciler .quiet).existing p c =
    (.ok ((c.working.choices.filter (·.questionId == p)).map (·.id)),
      { c with issued := c.issued ++ [.select .choices] }) := by
  rw [reconciler_existing]
  exact Connection.query_quiet (Except.map_eq_ok.mpr ⟨_, Tables.choicesOf_ok hp, rfl⟩)

/-- If no choice that is stored under the question is left out, reconciling the choices is placing
them. -/
theorem eachOf_of_reconcile {xs xs' : List Choice} {ids : List Int}
    (hall : ∀ r ∈ c.working.choices, r.questionId = p → ∃ x ∈ xs, x.id ≠ 0 ∧ x.id = r.id)
    (h : (reconciler plan).reconcile p (xs, c) = (.ok ids, (xs', c'))) :
    ∃ c₁, c₁.working = c.working ∧
      eachOf ((reconciler plan).place p) xs c₁ = (.ok (), (xs', c')) := by
  have hkept : ∀ i ∈ (c.working.choices.filter (·.questionId == p)).map (·.id),
      i ∈ (reconciler plan).kept xs := by
    intro i hi
    obtain ⟨r, hr, rfl⟩ := List.mem_map.mp hi
    obtain ⟨hr, hp⟩ := List.mem_filter.mp hr
    obtain ⟨x, hx, hid, he⟩ := hall r hr (by simpa using hp)
    exact Reconciler.mem_kept.mpr ⟨he ▸ hid, x, hx, he⟩
  obtain ⟨_, c₁, hexisting, hplace⟩ := Reconciler.eachOf_of_reconcile (fun _ _ he => by
    obtain ⟨-, rfl, -⟩ := existing_ok he
    exact hkept) h
  exact ⟨c₁, (existing_ok hexisting).2.2, hplace⟩

theorem reconciler_create : (reconciler plan).create =
    assigning (fun x => Connection.insert plan .choices
      (Tables.insertChoice x.questionId x.text x.correct)) fun id x => { x with id } := rfl

/-- What placing a choice that has no id has inserted. -/
theorem place_new {x : Choice} {y : Choice × Connection} (hx : x.id = 0)
    (h : (reconciler plan).place p (x, c) = (.ok (), y)) :
    ∃ id t, c.working.insertChoice p x.text x.correct = .ok (id, t) ∧
      y.1 = { x with questionId := p, id } ∧ y.2.working = t := by
  rcases Reconciler.upsert_eq_ok.mp (Reconciler.place_eq_ok.mp h) with ⟨_, z, w, hz, hw, hd⟩ | ⟨hne, _⟩
  · cases hz
    rw [reconciler_create] at hw
    obtain ⟨id, c₁, hi, rfl⟩ := assigning_eq_ok.mp hw
    cases hd
    exact ⟨id, _, Connection.insert_ok hi, rfl, rfl⟩
  · exact absurd hx hne

/-- What placing a choice that has an id has updated. -/
theorem place_old {x : Choice} {y : Choice × Connection} (hx : x.id ≠ 0)
    (h : (reconciler plan).place p (x, c) = (.ok (), y)) :
    ∃ n t, n ≠ 0 ∧ c.working.updateChoice x.id (some p) x.text x.correct = .ok (n, t) ∧
      y.1 = { x with questionId := p } ∧ y.2.working = t := by
  rcases Reconciler.upsert_eq_ok.mp (Reconciler.place_eq_ok.mp h) with
    ⟨hz, _⟩ | ⟨_, n, z, hn, hu, hd⟩
  · exact absurd hz hx
  · obtain ⟨c₁, hw, rfl⟩ := update_eq_ok.mp hu
    cases hd
    exact ⟨n, _, hn, Connection.write_ok hw hn, rfl, rfl⟩

/-- Undisturbed, a choice is placed if its row can be overwritten. -/
theorem place_quiet {x : Choice} {t : Tables} (hx : x.id ≠ 0)
    (hu : c.working.updateChoice x.id (some p) x.text x.correct = .ok (1, t)) :
    ∃ c', (reconciler .quiet).place p (x, c) = (.ok (), ({ x with questionId := p }, c')) := by
  have hupdate := update_eq_ok (x := { x with questionId := p }).mpr ⟨_, Connection.write_quiet hu, rfl⟩
  exact ⟨_, Reconciler.place_eq_ok.mpr
    (Reconciler.upsert_eq_ok.mpr (.inr ⟨hx, 1, _, Nat.one_ne_zero, hupdate, rfl⟩))⟩

/-- Undisturbed, a choice that is stored can be discarded. -/
theorem discard_quiet {i : Int} {r : ChoiceRow} (hs : c.working.Sound)
    (hr : c.working.choiceAt i = some r) :
    ∃ c', (reconciler .quiet).discard p i c = (.ok (), c') := by
  obtain ⟨hmem, hid⟩ := hs.choices.rowAt_eq_some.mp hr
  have hdelete := Tables.deleteChoice_eq_ok.mpr
    ⟨hid ▸ hs.choices_fit r hmem, .inr ⟨⟨r, hmem, hid⟩, rfl, rfl⟩⟩
  exact ⟨_, Reconciler.discard_eq_ok.mpr
    ⟨1, _, Nat.one_ne_zero, Connection.write_quiet hdelete, rfl⟩⟩

variable (plan)

/-- The choices by id, each owned by its question. -/
def view (T : Tables) : (reconciler plan).View ChoiceRow where
  Inv := Around T
  rows c := c.working.choiceAt
  owner := ChoiceRow.questionId
  stored := row?
  existing {p c c' ids} hc h := by
    obtain ⟨hfit, rfl, hw⟩ := existing_ok h
    refine ⟨⟨hw ▸ hc.sound, hw ▸ hc.quizzes, hw ▸ hc.questions⟩, by rw [hw], fun i => ?_⟩
    exact Tables.mem_choicesOf hc.sound (Tables.choicesOf_ok hfit)
  place {p x x' c c'} hc h := by
    by_cases hx : x.id = 0
    · obtain ⟨id, t, hi, rfl, rfl⟩ := place_new hx h
      obtain ⟨text, correct, ht, hb, hq, hqs, hlt, hat⟩ := Tables.insertChoice_at hi
      refine ⟨⟨hc.sound.insertChoice hi, hq.trans hc.quizzes, hqs.trans hc.questions⟩, ?_⟩
      refine ⟨⟨_, by simp only [row?, ht, hb], rfl, hat⟩, fun _ i r hr => hlt r i hr, ?_⟩
      exact fun hne => absurd hx hne
    · obtain ⟨n, t, hn, hu, rfl, rfl⟩ := place_old hx h
      obtain ⟨text, correct, ht, hb, hq, hqs, hex, hat⟩ := Tables.updateChoice_at hc.sound hn hu
      refine ⟨⟨hc.sound.updateChoice hu, hq.trans hc.quizzes, hqs.trans hc.questions⟩, ?_⟩
      refine ⟨⟨_, by simp only [row?, ht, hb], rfl, hat⟩, fun h₀ => absurd h₀ hx, ?_⟩
      exact fun _ => ⟨rfl, hex⟩
  discard {p i c c'} hc h := by
    obtain ⟨n, c₁, hn, hd, rfl⟩ := Reconciler.discard_eq_ok.mp h
    have hd := Connection.write_ok hd hn
    obtain ⟨hq, hqs, hat⟩ := Tables.deleteChoice_at hc.sound hn hd
    exact ⟨⟨hc.sound.deleteChoice hd, hq.trans hc.quizzes, hqs.trans hc.questions⟩, hat⟩

end Choice

/-! ## Questions -/

/-- What is stored of a question: its row, and the choices under it by id. -/
structure StoredQuestion where
  row : QuestionRow
  choices : Int → Option ChoiceRow

/-- What is stored under an id in the table of questions. -/
def Tables.storedQuestion (t : Tables) (i : Int) : Option StoredQuestion :=
  (t.questionAt i).map fun row => ⟨row, t.choiceUnder i⟩

namespace Question

/-- The row that a question is stored as. A missing text or image is stored empty. -/
def row? (q : Question) : Option QuestionRow :=
  q.position.map fun position =>
    ⟨q.id, q.quizId, q.text.getD "", q.imageUrl.getD "", position⟩

/-- What is to be stored of a question, its last choices with their ids. -/
def stored? (q : Question) : Option StoredQuestion :=
  q.row?.map fun row => ⟨row, fun i => (lastWith (·.id) i q.choices).bind Choice.row?⟩

/-- The choices that reconciliation goes on with below a question. -/
def desired (q : Question) : List Choice :=
  if q.id = 0 then q.choices.map Choice.forget else q.choices

theorem length_desired (q : Question) : q.desired.length = q.choices.length := by
  unfold desired
  split <;> simp

theorem desired_old {q : Question} (hq : q.id ≠ 0) : q.desired = q.choices := by
  rw [desired, if_neg hq]

theorem desired_new {q : Question} (hq : q.id = 0) : ∀ x ∈ q.desired, x.id = 0 := by
  intro x hx
  rw [desired, if_pos hq] at hx
  obtain ⟨y, _, rfl⟩ := List.mem_map.mp hx
  rfl

/-- What placing a question under a quiz has done: first a row was set, then the choices below it
were reconciled. -/
structure Placement (plan : Plan Statement) (p : Int) (q : Question) (c : Connection)
    (q' : Question) (c₁ c' : Connection) : Prop where
  sound : c₁.working.Sound
  quizzes : c₁.working.quizzes = c.working.quizzes
  choices : c₁.working.choices = c.working.choices
  row : ∃ r, q'.row? = some r ∧ r.quizId = p ∧
    ∀ i, c₁.working.questionAt i = if i = q'.id then some r else c.working.questionAt i
  below : (Choice.view plan c₁.working).Reconciled q'.id q.desired c₁ q'.choices c'
  fresh : q.id = 0 → ∀ i r, c.working.questionAt i = some r → i < q'.id
  owned : q.id ≠ 0 → q'.id = q.id ∧ q.text.isSome ∧ q.imageUrl.isSome ∧
    ∃ r, c.working.questionAt q.id = some r ∧ r.quizId = p

theorem reconciler_existing (p : Int) : (reconciler plan).existing p =
    Connection.query plan .questions fun t => (t.questionsOf p).map (·.map (·.id)) := rfl

/-- The ids under a quiz are read, and nothing is changed. -/
theorem existing_ok {ids : List Int} (h : (reconciler plan).existing p c = (.ok ids, c')) :
    fits p = true ∧ ids = (c.working.questions.filter (·.quizId == p)).map (·.id) ∧
      c'.working = c.working := by
  rw [reconciler_existing] at h
  obtain ⟨hids, hw⟩ := Connection.query_ok h
  obtain ⟨rows, hrows, rfl⟩ := Except.map_eq_ok.mp hids
  obtain ⟨hfit, rfl⟩ := Tables.questionsOf_eq_ok.mp hrows
  exact ⟨hfit, rfl, hw⟩

/-- Undisturbed, the ids under a quiz can be read. -/
theorem existing_quiet (hp : fits p = true) : (reconciler .quiet).existing p c =
    (.ok ((c.working.questions.filter (·.quizId == p)).map (·.id)),
      { c with issued := c.issued ++ [.select .questions] }) := by
  rw [reconciler_existing]
  exact Connection.query_quiet (Except.map_eq_ok.mpr ⟨_, Tables.questionsOf_ok hp, rfl⟩)

/-- If no question that is stored under the quiz is left out, reconciling the questions is placing
them. -/
theorem eachOf_of_reconcile {qs qs' : List Question} {ids : List Int}
    (hall : ∀ r ∈ c.working.questions, r.quizId = p → ∃ q ∈ qs, q.id ≠ 0 ∧ q.id = r.id)
    (h : (reconciler plan).reconcile p (qs, c) = (.ok ids, (qs', c'))) :
    ∃ c₁, c₁.working = c.working ∧
      eachOf ((reconciler plan).place p) qs c₁ = (.ok (), (qs', c')) := by
  have hkept : ∀ i ∈ (c.working.questions.filter (·.quizId == p)).map (·.id),
      i ∈ (reconciler plan).kept qs := by
    intro i hi
    obtain ⟨r, hr, rfl⟩ := List.mem_map.mp hi
    obtain ⟨hr, hp⟩ := List.mem_filter.mp hr
    obtain ⟨q, hq, hid, he⟩ := hall r hr (by simpa using hp)
    exact Reconciler.mem_kept.mpr ⟨he ▸ hid, q, hq, he⟩
  obtain ⟨_, c₁, hexisting, hplace⟩ := Reconciler.eachOf_of_reconcile (fun _ _ he => by
    obtain ⟨-, rfl, -⟩ := existing_ok he
    exact hkept) h
  exact ⟨c₁, (existing_ok hexisting).2.2, hplace⟩

theorem reconciler_create : (reconciler plan).create =
    assigning (fun q => Connection.insert plan .questions
      (Tables.insertQuestion q.quizId q.text q.imageUrl q.position)) fun id q => { q with id } := rfl

/-- What placing a question that has no id has done. -/
theorem place_new {q : Question} {y : Question × Connection} (hq : q.id = 0)
    (h : (reconciler plan).place p (q, c) = (.ok (), y)) :
    ∃ id c₁ ids, c.working.insertQuestion p q.text q.imageUrl q.position = .ok (id, c₁.working) ∧
      (Choice.reconciler plan).reconcile id (q.desired, c₁) = (.ok ids, (y.1.choices, y.2)) ∧
      y.1 = { q with quizId := p, id, choices := y.1.choices } := by
  rcases Reconciler.upsert_eq_ok.mp (Reconciler.place_eq_ok.mp h) with
    ⟨_, z, w, hz, hw, hd⟩ | ⟨hne, _⟩
  · cases hz
    rw [reconciler_create] at hw
    obtain ⟨id, c₁, hi, rfl⟩ := assigning_eq_ok.mp hw
    obtain ⟨ids, choices, c₂, hr, rfl⟩ := reconcileChoices_eq_ok.mp hd
    have hi := Connection.insert_ok hi
    rw [desired, if_pos hq]
    exact ⟨id, c₁.note _, ids, hi, hr, rfl⟩
  · exact absurd hq hne

/-- What placing a question that has an id has done. -/
theorem place_old {q : Question} {y : Question × Connection} (hq : q.id ≠ 0)
    (h : (reconciler plan).place p (q, c) = (.ok (), y)) :
    ∃ n c₁ ids, n ≠ 0 ∧ c.working.updateQuestion q.id (some p) q.text q.imageUrl q.position =
        .ok (n, c₁.working) ∧
      (Choice.reconciler plan).reconcile q.id (q.desired, c₁) = (.ok ids, (y.1.choices, y.2)) ∧
      y.1 = { q with quizId := p, choices := y.1.choices } := by
  rcases Reconciler.upsert_eq_ok.mp (Reconciler.place_eq_ok.mp h) with
    ⟨hz, _⟩ | ⟨_, n, z, hn, hu, hd⟩
  · exact absurd hz hq
  · obtain ⟨c₁, hw, rfl⟩ := update_eq_ok.mp hu
    obtain ⟨ids, choices, c₂, hr, rfl⟩ := reconcileChoices_eq_ok.mp hd
    have hw := Connection.write_ok hw hn
    rw [desired, if_neg hq]
    exact ⟨n, c₁.note _, ids, hn, hw, hr, rfl⟩

/-- Undisturbed, a question is placed if its row can be overwritten and its choices can be reconciled
after that. -/
theorem place_quiet {q : Question} {t : Tables} (hq : q.id ≠ 0)
    (hu : c.working.updateQuestion q.id (some p) q.text q.imageUrl q.position = .ok (1, t)) :
    ∃ c₁ : Connection, c₁.working = t ∧ ∀ ids xs c',
      (Choice.reconciler .quiet).reconcile q.id (q.choices, c₁) = (.ok ids, (xs, c')) →
      (reconciler .quiet).place p (q, c) = (.ok (), ({ q with quizId := p, choices := xs }, c')) := by
  have hupdate := update_eq_ok (q := { q with quizId := p }).mpr ⟨_, Connection.write_quiet hu, rfl⟩
  let c₁ : Connection := { c with working := t, issued := c.issued ++ [.update .questions] }
  refine ⟨c₁.note (.childUpdated "question" q.id), rfl, fun ids xs c' hr => ?_⟩
  have hdescend := reconcileChoices_eq_ok (q := { q with quizId := p }).mpr ⟨ids, xs, c', hr, rfl⟩
  exact Reconciler.place_eq_ok.mpr
    (Reconciler.upsert_eq_ok.mpr (.inr ⟨hq, 1, _, Nat.one_ne_zero, hupdate, hdescend⟩))

/-- Undisturbed, a question that is stored can be discarded. -/
theorem discard_quiet {i : Int} {r : QuestionRow} (hs : c.working.Sound)
    (hr : c.working.questionAt i = some r) :
    ∃ c', (reconciler .quiet).discard p i c = (.ok (), c') := by
  obtain ⟨hmem, hid⟩ := hs.questions.rowAt_eq_some.mp hr
  have hdelete := Tables.deleteQuestion_eq_ok.mpr
    ⟨hid ▸ hs.questions_fit r hmem, .inr ⟨⟨r, hmem, hid⟩, rfl, rfl⟩⟩
  exact ⟨_, Reconciler.discard_eq_ok.mpr
    ⟨1, _, Nat.one_ne_zero, Connection.write_quiet hdelete, rfl⟩⟩

theorem around_self (hs : c.working.Sound) : Choice.Around c.working c := ⟨hs, rfl, rfl⟩

theorem place_ok {q q' : Question} (hs : c.working.Sound)
    (h : (reconciler plan).place p (q, c) = (.ok (), (q', c'))) :
    ∃ c₁, Placement plan p q c q' c₁ c' := by
  by_cases hq : q.id = 0
  · obtain ⟨id, c₁, ids, hi, hr, hq'⟩ := place_new hq h
    obtain ⟨position, hp, hqz, hch, hlt, hat⟩ := Tables.insertQuestion_at hi
    have hs₁ := hs.insertQuestion hi
    have hb := (Choice.view plan c₁.working).reconcile (around_self hs₁) hr
    dsimp only at hq' hb
    have hid : q'.id = id := by rw [hq']
    refine ⟨c₁, hs₁, hqz, hch, ?_, hid ▸ hb, fun _ i r hr => hid ▸ hlt r i hr, fun h₀ => ?_⟩
    · refine ⟨⟨id, p, q.text.getD "", q.imageUrl.getD "", position⟩, ?_, rfl, hid ▸ hat⟩
      rw [hq', row?, hp]
      rfl
    · exact absurd hq h₀
  · obtain ⟨n, c₁, ids, hn, hu, hr, hq'⟩ := place_old hq h
    obtain ⟨text, imageUrl, position, ht, hi, hp, hqz, hch, hex, hat⟩ :=
      Tables.updateQuestion_at hs hn hu
    have hs₁ := hs.updateQuestion hu
    have hb := (Choice.view plan c₁.working).reconcile (around_self hs₁) hr
    dsimp only at hq' hb
    have hid : q'.id = q.id := by rw [hq']
    refine ⟨c₁, hs₁, hqz, hch, ?_, hid ▸ hb, fun h₀ => absurd h₀ hq, fun _ => ?_⟩
    · refine ⟨⟨q.id, p, text, imageUrl, position⟩, ?_, rfl, hid ▸ hat⟩
      rw [hq', row?, hp, ht, hi]
      rfl
    · exact ⟨hid, by simp [ht], by simp [hi], hex⟩

namespace Placement

variable {q q' : Question} {c₁ : Connection} (h : Placement plan p q c q' c₁ c')

include h

theorem questionAt (i : Int) : c'.working.questionAt i = c₁.working.questionAt i := by
  unfold Tables.questionAt
  rw [h.below.inv.questions]

/-- Under the question there are its last choices, and under others there is what was there. -/
theorem choiceUnder (i j : Int) : c'.working.choiceUnder i j =
    if i = q'.id then (lastWith (·.id) j q'.choices).bind Choice.row?
    else c.working.choiceUnder i j := by
  split
  · subst i
    exact h.below.mine j
  · have ho : c'.working.choiceUnder i j = c₁.working.choiceUnder i j := h.below.others i ‹_› j
    rw [ho, Tables.choiceUnder, Tables.choiceUnder, Tables.choiceAt, Tables.choiceAt, h.choices]

theorem placed : (reconciler plan).Placed (fun c => c.working.storedQuestion)
    (fun r => r.row.quizId) stored? p q c q' c' := by
  obtain ⟨r, hr, hp, hat⟩ := h.row
  refine ⟨⟨_, by rw [stored?, hr, Option.map_some], hp, fun i => ?_⟩, fun h₀ i r hr => ?_,
    fun h₀ => ?_⟩
  · simp only [Tables.storedQuestion, h.questionAt, hat]
    have hu : c'.working.choiceUnder i = _ := funext fun j => h.choiceUnder i j
    rw [hu]
    by_cases hi : i = q'.id
    · simp only [hi, reconciler, if_true, Option.map_some]
    · simp only [hi, reconciler, if_false]
  · obtain ⟨row, hrow, rfl⟩ := Option.map_eq_some_iff.mp hr
    exact h.fresh h₀ i row hrow
  · obtain ⟨hid, _, _, row, hrow, ho⟩ := h.owned h₀
    exact ⟨hid, _, Option.map_eq_some_iff.mpr ⟨row, hrow, rfl⟩, ho⟩

end Placement

variable (plan)

/-- The questions by id with what is below them, each owned by its quiz. -/
def view (T : Tables) : (reconciler plan).View StoredQuestion where
  Inv c := c.working.Sound ∧ c.working.quizzes = T.quizzes
  rows c := c.working.storedQuestion
  owner r := r.row.quizId
  stored := stored?
  existing {p c c' ids} hc h := by
    obtain ⟨hfit, rfl, hw⟩ := existing_ok h
    refine ⟨⟨hw ▸ hc.1, hw ▸ hc.2⟩, by rw [hw], fun i => ?_⟩
    rw [Tables.mem_questionsOf hc.1 (Tables.questionsOf_ok hfit)]
    constructor
    · rintro ⟨r, hr, hp⟩
      exact ⟨_, Option.map_eq_some_iff.mpr ⟨r, hr, rfl⟩, hp⟩
    · rintro ⟨_, hm, hp⟩
      obtain ⟨r, hr, rfl⟩ := Option.map_eq_some_iff.mp hm
      exact ⟨r, hr, hp⟩
  place hc h := by
    obtain ⟨c₁, hp⟩ := place_ok hc.1 h
    exact ⟨⟨hp.below.inv.sound, (hp.below.inv.quizzes.trans hp.quizzes).trans hc.2⟩, hp.placed⟩
  discard {p i c c'} hc h := by
    obtain ⟨n, c₁, hn, hd, rfl⟩ := Reconciler.discard_eq_ok.mp h
    have hd := Connection.write_ok hd hn
    obtain ⟨hq, hat, hun⟩ := Tables.deleteQuestion_at hc.1 hn hd
    refine ⟨⟨hc.1.deleteQuestion hd, hq.trans hc.2⟩, fun j => ?_⟩
    have hu : Tables.choiceUnder c₁.working j = _ := funext fun i => hun j i
    have hat := hat j
    show Tables.storedQuestion c₁.working j = _
    rw [Tables.storedQuestion, hat, hu]
    by_cases hj : j = i <;> simp [hj, Tables.storedQuestion]

end Question

end TriviaStore
