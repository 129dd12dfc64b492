import TriviaStore.Proofs.Store.Views

/-! # What storing new children appends

Children without ids are stored by inserting alone: the rows of a list of new choices, and of a list
of new questions with everything below them, are added behind the rows that were there, in the order
of the lists, and nothing is deleted.
-/

namespace TriviaStore

open Attempt

variable {plan : Plan Statement} {c c' : Connection} {p : Int}

/-- The rows of a list of entities, one each. -/
def AreRows {C Row : Type} (row? : C → Option Row) (cs : List C) (rows : List Row) : Prop :=
  cs.map row? = rows.map some

namespace AreRows

variable {C Row : Type} {row? : C → Option Row} {cs ds : List C} {rows sows : List Row}

theorem nil : AreRows row? [] [] := rfl

theorem cons {c : C} {r : Row} (hc : row? c = some r) (h : AreRows row? cs rows) :
    AreRows row? (c :: cs) (r :: rows) := by
  unfold AreRows at *
  rw [List.map_cons, List.map_cons, hc, h]

theorem append (h : AreRows row? cs rows) (h' : AreRows row? ds sows) :
    AreRows row? (cs ++ ds) (rows ++ sows) := by
  unfold AreRows at *
  rw [List.map_append, List.map_append, h, h']

theorem exists_of_row {r : Row} (h : AreRows row? cs rows) (hr : r ∈ rows) :
    ∃ c ∈ cs, row? c = some r := by
  have hm : some r ∈ cs.map row? := by
    rw [h]
    exact List.mem_map_of_mem hr
  exact List.mem_map.mp hm

theorem exists_row {c : C} (h : AreRows row? cs rows) (hc : c ∈ cs) :
    ∃ r ∈ rows, row? c = some r := by
  have hm : row? c ∈ rows.map some := by
    rw [← h]
    exact List.mem_map_of_mem hc
  obtain ⟨r, hr, he⟩ := List.mem_map.mp hm
  exact ⟨r, hr, he.symm⟩

/-- What is told from the rows is what is told from the entities. -/
theorem map_eq {β : Type} {f : C → β} {g : Row → β} (h : AreRows row? cs rows)
    (hr : ∀ c ∈ cs, ∀ r, row? c = some r → g r = f c) : rows.map g = cs.map f := by
  induction cs generalizing rows with
  | nil => rw [List.map_eq_nil_iff.mp h.symm]; rfl
  | cons c cs ih =>
    cases rows with
    | nil => cases h
    | cons r rows =>
      obtain ⟨hc, h⟩ := List.cons.inj h
      rw [List.map_cons, List.map_cons, hr c List.mem_cons_self r hc,
        ih h fun c hc => hr c (List.mem_cons_of_mem _ hc)]

end AreRows

/-! ## Choices -/

namespace Choice

theorem row?_eq_some {x : Choice} {r : ChoiceRow} (h : x.row? = some r) :
    ∃ text correct, x.text = some text ∧ x.correct = some correct ∧
      r = ⟨x.id, x.questionId, text, flag correct⟩ := by
  unfold row? at h
  split at h
  · rename_i text correct ht hc
    cases h
    exact ⟨text, correct, ht, hc, rfl⟩
  · cases h

theorem eachOf_place_new {xs xs' : List Choice} (hx : ∀ x ∈ xs, x.id = 0)
    (h : eachOf ((reconciler plan).place p) xs c = (.ok (), (xs', c'))) :
    ∃ rows, AreRows row? xs' rows ∧ (∀ x' ∈ xs', x'.questionId = p) ∧
      c'.working = { c.working with choices := c.working.choices ++ rows } := by
  induction xs generalizing c xs' with
  | nil => cases h; exact ⟨[], .nil, by simp, by simp⟩
  | cons x xs ih =>
    obtain ⟨x', c₁, xs₁, hp, hr, rfl⟩ := eachOf_cons_eq_ok.mp h
    obtain ⟨id, t, hi, hx', rfl⟩ := place_new (hx x List.mem_cons_self) hp
    obtain ⟨rows, hrows, hpar, hw⟩ := ih (fun x hx' => hx x (List.mem_cons_of_mem _ hx')) hr
    obtain ⟨_, text, correct, ht, hc, _, _, _, ht'⟩ := Tables.insertChoice_eq_ok.mp hi
    dsimp only at hx'
    refine ⟨⟨id, p, text, flag correct⟩ :: rows, .cons (by simp only [hx', row?, ht, hc]) hrows, ?_, ?_⟩
    · rintro y hy
      rcases List.mem_cons.mp hy with rfl | hy
      · rw [hx']
      · exact hpar y hy
    · rw [hw, ht']
      simp

/-- Reconciling new choices below a question that has none appends their rows. -/
theorem reconcile_new {xs xs' : List Choice} {ids : List Int} (hx : ∀ x ∈ xs, x.id = 0)
    (hp : ∀ r ∈ c.working.choices, r.questionId ≠ p)
    (h : (reconciler plan).reconcile p (xs, c) = (.ok ids, (xs', c'))) :
    ∃ rows, AreRows row? xs' rows ∧ (∀ x' ∈ xs', x'.questionId = p) ∧
      c'.working = { c.working with choices := c.working.choices ++ rows } := by
  obtain ⟨c₁, hw, hall⟩ := eachOf_of_reconcile (fun r hr he => absurd he (hp r hr)) h
  rw [← hw]
  exact eachOf_place_new hx hall

end Choice

/-! ## Questions -/

namespace Question

/-- Questions and everything below them have been added under a quiz, behind the rows there were. -/
structure Appended (p : Int) (qs : List Question) (t t' : Tables) (rows : List QuestionRow)
    (below : List ChoiceRow) : Prop where
  question_rows : AreRows row? qs rows
  choice_rows : AreRows Choice.row? (qs.flatMap (·.choices)) below
  parents : ∀ q ∈ qs, q.quizId = p ∧ ∀ x ∈ q.choices, x.questionId = q.id
  tables : t' = { t with questions := t.questions ++ rows, choices := t.choices ++ below }

theorem place_new_appends {q q' : Question} (hs : c.working.Sound) (hq : q.id = 0)
    (h : (reconciler plan).place p (q, c) = (.ok (), (q', c'))) :
    ∃ row rows, Appended p [q'] c.working c'.working [row] rows := by
  obtain ⟨id, c₁, ids, hi, hr, hq'⟩ := place_new hq h
  obtain ⟨_, position, hp, _, _, hid, _, ht⟩ := Tables.insertQuestion_eq_ok.mp hi
  dsimp only at hr hq'
  -- No choice is below the new question yet: choices belong to questions with smaller ids.
  have hnone : ∀ r ∈ c₁.working.choices, r.questionId ≠ id := by
    intro r hr
    rw [ht] at hr
    obtain ⟨o, ho, he⟩ := hs.choice_owner r hr
    have hlt : o.id < freshId (c.working.questions.map QuestionRow.id) := lt_fresh_of_mem ho
    rw [← hid, he] at hlt
    exact Int.ne_of_lt hlt
  obtain ⟨rows, hrows, hpar, hw⟩ := Choice.reconcile_new (desired_new hq) hnone hr
  refine ⟨⟨id, p, q.text.getD "", q.imageUrl.getD "", position⟩, rows,
    { question_rows := .cons ?_ .nil, choice_rows := by simpa using hrows, parents := ?_, tables := ?_ }⟩
  · rw [hq', row?, hp]
    rfl
  · intro x hx
    obtain rfl := List.mem_singleton.mp hx
    rw [hq']
    exact ⟨rfl, hpar⟩
  · rw [hw, ht]

theorem Appended.cons {q : Question} {qs : List Question} {t t₁ t' : Tables} {row : QuestionRow}
    {rows : List QuestionRow} {below below' : List ChoiceRow} (h : Appended p [q] t t₁ [row] below)
    (h' : Appended p qs t₁ t' rows below') :
    Appended p (q :: qs) t t' (row :: rows) (below ++ below') where
  question_rows := h.question_rows.append h'.question_rows
  choice_rows := by
    have hb := h.choice_rows.append h'.choice_rows
    rwa [List.flatMap_singleton, ← List.flatMap_cons] at hb
  parents x hx := by
    rcases List.mem_cons.mp hx with rfl | hx
    · exact h.parents x List.mem_cons_self
    · exact h'.parents x hx
  tables := by
    rw [h'.tables, h.tables]
    simp

theorem eachOf_place_new {qs qs' : List Question} (hs : c.working.Sound)
    (hq : ∀ q ∈ qs, q.id = 0)
    (h : eachOf ((reconciler plan).place p) qs c = (.ok (), (qs', c'))) :
    ∃ rows below, Appended p qs' c.working c'.working rows below := by
  induction qs generalizing c qs' with
  | nil => cases h; exact ⟨[], [], .nil, .nil, by simp, by simp⟩
  | cons q qs ih =>
    obtain ⟨q', c₁, qs₁, hp, hr, rfl⟩ := eachOf_cons_eq_ok.mp h
    obtain ⟨row, below, happ⟩ := place_new_appends hs (hq q List.mem_cons_self) hp
    obtain ⟨_, hpl⟩ := place_ok hs hp
    obtain ⟨rows, below', happ'⟩ :=
      ih hpl.below.inv.sound (fun q hq' => hq q (List.mem_cons_of_mem _ hq')) hr
    exact ⟨row :: rows, below ++ below', happ.cons happ'⟩

/-- No question is below a new quiz yet: questions belong to quizzes with smaller ids. -/
theorem none_below_new {t t' : Tables} {title slug description : Option String} {created id : Int}
    (hs : t.Sound) (hi : t.insertQuiz title slug description created = .ok (id, t')) :
    ∀ r ∈ t'.questions, r.quizId ≠ id := by
  obtain ⟨_, _, _, _, _, _, rfl, _, rfl⟩ := Tables.insertQuiz_eq_ok.mp hi
  intro r hr he
  obtain ⟨o, ho, hid⟩ := hs.question_owner r hr
  have hlt : o.id < freshId (t.quizzes.map QuizRow.id) := lt_fresh_of_mem ho
  rw [hid, he] at hlt
  exact Int.lt_irrefl _ hlt

/-- Reconciling new questions below a quiz that has none appends their rows. -/
theorem reconcile_new {qs qs' : List Question} {ids : List Int} (hs : c.working.Sound)
    (hq : ∀ q ∈ qs, q.id = 0) (hp : ∀ r ∈ c.working.questions, r.quizId ≠ p)
    (h : (reconciler plan).reconcile p (qs, c) = (.ok ids, (qs', c'))) :
    ∃ rows below, Appended p qs' c.working c'.working rows below := by
  obtain ⟨c₁, hw, hall⟩ := eachOf_of_reconcile (fun r hr he => absurd he (hp r hr)) h
  rw [← hw] at hs ⊢
  exact eachOf_place_new hs hq hall

end Question

end TriviaStore
