import TriviaStore.Proofs.Store.Authored
import TriviaStore.Proofs.Store.Success
import TriviaStore.Proofs.Store.Views

/-! # What an update stores

After an update that succeeds, what is stored under the quiz is what the quiz that comes back stands
for: under every id that its questions carry, the row of the last question carrying it, and below
that the rows of the last choices with their ids. Nothing that was there before and is not named by
these ids is left in any table.
-/

namespace TriviaStore

variable {cond : Conditions} {plan : Plan Statement} {c c' : Connection} {v v' : Quiz}
  {t t' T : Tables} {p i j : Int} {qs qs' : List Question}

/-! ## Reconciled questions -/

namespace Tables

theorem map_row_storedQuestion :
    ((t.storedQuestion i).filter (·.row.quizId == p)).map (·.row) = t.questionUnder p i := by
  unfold storedQuestion questionUnder
  cases t.questionAt i with
  | none => rfl
  | some r => by_cases hp : r.quizId = p <;> simp [Option.filter_some, hp]

end Tables

theorem Question.map_row_stored? (q? : Option Question) :
    (q?.bind Question.stored?).map (·.row) = q?.bind Question.row? := by
  cases q? with
  | none => rfl
  | some q => simp [Question.stored?, Function.comp_def]

/-- The questions of one quiz have been reconciled. -/
abbrev Question.Reconciled (plan : Plan Statement) (T : Tables) (p : Int) (qs : List Question)
    (c : Connection) (qs' : List Question) (c' : Connection) : Prop :=
  (Question.view plan T).Reconciled p qs c qs' c'

namespace Question.Reconciled

variable (h : Question.Reconciled plan T p qs c qs' c')

include h

theorem mine (i : Int) : (c'.working.storedQuestion i).filter (·.row.quizId == p) =
    (lastWith (·.id) i qs').bind Question.stored? := Reconciler.View.Reconciled.mine h i

theorem questionUnder (i : Int) :
    c'.working.questionUnder p i = (lastWith (·.id) i qs').bind Question.row? := by
  rw [← Tables.map_row_storedQuestion, h.mine i, Question.map_row_stored?]

theorem row_of_mem {q' : Question} (hq : q' ∈ qs') :
    ∃ r, q'.row? = some r ∧ q'.quizId = p := by
  obtain ⟨s, hs, hp⟩ := h.stored q' hq
  obtain ⟨r, hr, rfl⟩ := Option.map_eq_some_iff.mp hs
  obtain ⟨position, _, rfl⟩ := Option.map_eq_some_iff.mp hr
  exact ⟨_, hr, hp⟩

theorem choiceUnder {q' : Question} (hq : lastWith (·.id) i qs' = some q') (j : Int) :
    c'.working.choiceUnder i j = (lastWith (·.id) j q'.choices).bind Choice.row? := by
  obtain ⟨r, hr, _⟩ := h.row_of_mem (mem_of_lastWith hq).1
  have hm := h.mine i
  rw [hq, Option.bind_some, Question.stored?, hr, Option.map_some, Option.filter_eq_some_iff] at hm
  obtain ⟨s, _, hs⟩ := Option.map_eq_some_iff.mp hm.1
  exact congrFun (congrArg StoredQuestion.choices hs) j

/-- What is stored under another quiz is what was stored there. -/
theorem elsewhere {s : StoredQuestion} (hs : s.row.quizId ≠ p) :
    c.working.storedQuestion i = some s ↔ c'.working.storedQuestion i = some s := by
  have ho : (c'.working.storedQuestion i).filter (·.row.quizId == s.row.quizId) =
      (c.working.storedQuestion i).filter (·.row.quizId == s.row.quizId) := h.others _ hs i
  have hfilter (s? : Option StoredQuestion) :
      s? = some s ↔ s?.filter (·.row.quizId == s.row.quizId) = some s := by
    rw [Option.filter_eq_some_iff]
    constructor
    · exact fun he => ⟨he, beq_self_eq_true _⟩
    · exact And.left
  rw [hfilter, hfilter (c'.working.storedQuestion i), ho]

/-- A question of another quiz is as it was. -/
theorem other {r : QuestionRow} (hr : c'.working.questionAt i = some r) (hp : r.quizId ≠ p) :
    c.working.questionAt i = some r ∧
      ∀ j, c.working.choiceUnder i j = c'.working.choiceUnder i j := by
  have hs : c'.working.storedQuestion i = some ⟨r, c'.working.choiceUnder i⟩ := by
    rw [Tables.storedQuestion, hr, Option.map_some]
  obtain ⟨r', hr', he⟩ := Option.map_eq_some_iff.mp ((h.elsewhere hp).mpr hs)
  injection he with hrow hchoices
  exact ⟨hrow ▸ hr', congrFun hchoices⟩

/-- A question that was under the quiz and whose id no question carries is in no row. -/
theorem question_gone (hc : c.working.Sound) {r r' : QuestionRow} (hr : r ∈ c.working.questions)
    (hp : r.quizId = p) (hn : ∀ q' ∈ qs', q'.id ≠ r.id) (hr' : r' ∈ c'.working.questions) :
    r'.id ≠ r.id := by
  intro hid
  have hat := (Tables.mem_questions h.inv.1).mp hr'
  rw [hid] at hat
  by_cases hp' : r'.quizId = p
  · have hu := h.questionUnder r.id
    rw [lastWith_eq_none.mpr hn, Tables.questionUnder, hat, Option.filter_some,
      if_pos (by simpa using hp')] at hu
    cases hu
  · obtain ⟨hold, _⟩ := h.other hat hp'
    rw [(Tables.mem_questions hc).mp hr] at hold
    cases hold
    exact hp' hp

/-- A choice that was under a question of the quiz and whose id no choice of a last question carries
is in no row. -/
theorem choice_gone (hc : c.working.Sound) {q : QuestionRow} {r r' : ChoiceRow}
    (hr : r ∈ c.working.choices) (hq : q ∈ c.working.questions) (hid : q.id = r.questionId)
    (hp : q.quizId = p)
    (hn : ∀ i q', lastWith (·.id) i qs' = some q' → ∀ x ∈ q'.choices, x.id ≠ r.id)
    (hr' : r' ∈ c'.working.choices) : r'.id ≠ r.id := by
  intro he
  obtain ⟨q', hq', ho⟩ := h.inv.1.choice_owner r' hr'
  have hat := (Tables.mem_questions h.inv.1).mp hq'
  have hu := (Tables.mem_choices h.inv.1).mp hr'
  rw [← ho, he] at hu
  by_cases hp' : q'.quizId = p
  · have hu' := h.questionUnder q'.id
    rw [Tables.questionUnder, hat, Option.filter_some, if_pos (by simpa using hp')] at hu'
    obtain ⟨x, hx, _⟩ := Option.bind_eq_some_iff.mp hu'.symm
    rw [h.choiceUnder hx] at hu
    obtain ⟨y, hy, _⟩ := Option.bind_eq_some_iff.mp hu
    exact hn _ x hx y (mem_of_lastWith hy).1 (mem_of_lastWith hy).2
  · -- The row with the id is under a question of another quiz, where it was before.
    obtain ⟨hold, hsame⟩ := h.other hat hp'
    rw [← hsame, Tables.choiceUnder, Option.filter_eq_some_iff] at hu
    have hrr : c.working.choiceAt r.id = some r := hc.choices.rowAt_of_mem hr
    rw [hrr] at hu
    obtain ⟨hrr, hu⟩ := hu
    cases hrr
    have hqq : r.questionId = q'.id := by simpa using hu
    rw [← hqq, ← hid, (Tables.mem_questions hc).mp hq] at hold
    cases hold
    exact hp' hp

end Question.Reconciled

/-! ## Updated quizzes -/

/-- What an update has made of a quiz and of the rows of the store. -/
structure Quiz.Saved (v v' : Quiz) (t t' : Tables) : Prop where
  id : v'.id = v.id
  /-- Nothing but ids and parents has changed in the quiz passed in, -/
  authored : v'.authored = v.authored
  /-- and ids only where there were none. -/
  kept : ∀ (k : Nat) q q', v.questions[k]? = some q → v'.questions[k]? = some q' → q.id ≠ 0 →
    q'.id = q.id
  /-- The quiz's row has the texts of the quiz and its former creation time. -/
  quiz : ∃ title slug description r, v.title = some title ∧ v.slug = some slug ∧
    v.description = some description ∧ r ∈ t.quizzes ∧ r.id = v.id ∧
    t'.quizzes.filter (·.id == v.id) = [⟨v.id, title, slug, description, r.createdAt⟩]
  /-- Under an id there is the row of the last question carrying it, or there is none. -/
  questions : ∀ i, t'.questions.filter (fun r => r.quizId == v.id && r.id == i) =
    ((lastWith (·.id) i v'.questions).bind Question.row?).toList
  question_row : ∀ q' ∈ v'.questions, q'.row?.isSome
  /-- A missing text or image is stored only for a question that was inserted. -/
  complete : ∀ q ∈ v.questions, q.id ≠ 0 → q.text.isSome ∧ q.imageUrl.isSome
  /-- Below a stored question there is the row of the last choice with an id, or there is none. -/
  choices : ∀ i q', lastWith (·.id) i v'.questions = some q' → ∀ j,
    t'.choices.filter (fun r => r.questionId == i && r.id == j) =
      ((lastWith (·.id) j q'.choices).bind Choice.row?).toList
  choice_row : ∀ q' ∈ v'.questions, ∀ x ∈ q'.choices, x.row?.isSome
  question_gone : ∀ r ∈ t.questions, r.quizId = v.id → (∀ q' ∈ v'.questions, q'.id ≠ r.id) →
    ∀ r' ∈ t'.questions, r'.id ≠ r.id
  choice_gone : ∀ r ∈ t.choices, (∃ q ∈ t.questions, q.id = r.questionId ∧ q.quizId = v.id) →
    (∀ i q', lastWith (·.id) i v'.questions = some q' → ∀ x ∈ q'.choices, x.id ≠ r.id) →
    ∀ r' ∈ t'.choices, r'.id ≠ r.id

namespace Tables

theorem filter_quizzes (ht : t.Sound) (i : Int) :
    t.quizzes.filter (·.id == i) = (t.quizAt i).toList := by
  have h := ht.quizzes.filter_key (fun _ => true) i
  cases hr : rowAt QuizRow.id t.quizzes i <;> simpa [quizAt, hr, Option.filter_some] using h

theorem filter_questions (ht : t.Sound) (p i : Int) :
    t.questions.filter (fun r => r.quizId == p && r.id == i) = (t.questionUnder p i).toList :=
  ht.questions.filter_key (·.quizId == p) i

theorem filter_choices (ht : t.Sound) (p i : Int) :
    t.choices.filter (fun r => r.questionId == p && r.id == i) = (t.choiceUnder p i).toList :=
  ht.choices.filter_key (·.questionId == p) i

end Tables

/-- What comes of a single question of a reconciliation that succeeds. -/
structure Question.Filed (q q' : Question) : Prop where
  kept : q.id ≠ 0 → q'.id = q.id
  complete : q.id ≠ 0 → q.text.isSome ∧ q.imageUrl.isSome
  choice_row : ∀ x ∈ q'.choices, x.row?.isSome

theorem Question.Placement.filed {q q' : Question} {c₁ : Connection}
    (h : Question.Placement plan p q c q' c₁ c') : q.Filed q' where
  kept h₀ := (h.owned h₀).1
  complete h₀ := ⟨(h.owned h₀).2.1, (h.owned h₀).2.2.1⟩
  choice_row x hx := by
    obtain ⟨r, hr, _⟩ := h.below.stored x hx
    exact Option.isSome_of_eq_some hr

/-- Every question of a reconciliation that succeeds has been placed, in some state on the way. -/
theorem Question.placement_of_reconcile {ids : List Int} (hc : c.working.Sound)
    (h : (Question.reconciler plan).reconcile p (qs, c) = (.ok ids, (qs', c'))) {k : Nat}
    {q q' : Question} (hq : qs[k]? = some q) (hq' : qs'[k]? = some q') :
    ∃ d d₁ d', Question.Placement plan p q d q' d₁ d' := by
  refine (Question.view plan c.working).reconcile_pairs
    (R := fun q q' => ∃ d d₁ d', Question.Placement plan p q d q' d₁ d') ?_ ⟨hc, rfl⟩ h hq hq'
  intro q d q' d' hi hp
  obtain ⟨d₁, hp⟩ := Question.place_ok hi.1 hp
  exact ⟨d, d₁, d', hp⟩

theorem Question.filed_of_reconcile {ids : List Int} (hc : c.working.Sound)
    (h : (Question.reconciler plan).reconcile p (qs, c) = (.ok ids, (qs', c'))) {k : Nat}
    {q q' : Question} (hq : qs[k]? = some q) (hq' : qs'[k]? = some q') : q.Filed q' := by
  obtain ⟨_, _, _, hp⟩ := Question.placement_of_reconcile hc h hq hq'
  exact hp.filed

/-- An update that succeeds leaves the quiz and the store as told. -/
theorem Store.updateQuiz_saves (ht : Reachable c.committed)
    (h : Store.updateQuiz cond (v, c) = (.ok (), (v', c'))) :
    v.Saved v' c.committed c'.committed := by
  have hc := ht.sound
  obtain ⟨_, n, c₁, c₂, ids, hn, hu, hr, hv, hc'⟩ := Store.updateQuiz_ok h
  obtain ⟨title, slug, description, r, htitle, hslug, hdesc, hqs, hxs, hrow, hat⟩ :=
    Tables.updateQuiz_at hc hn hu
  have hc₁ := hc.updateQuiz hu
  have hrec : Question.Reconciled cond.plan c₁.working v.id v.questions c₁ v'.questions c₂ :=
    (Question.view cond.plan c₁.working).reconcile ⟨hc₁, rfl⟩ hr
  have hsound := hrec.inv.1
  have hquiz : c₂.working.quizzes = c₁.working.quizzes := hrec.inv.2
  have hfiled {k : Nat} {q q' : Question} (hq : v.questions[k]? = some q)
      (hq' : v'.questions[k]? = some q') : q.Filed q' :=
    Question.filed_of_reconcile hc₁ hr hq hq'
  rw [hc']
  refine
    { id := by rw [hv], authored := Store.fixes_updateQuiz.eq h
      kept := fun k q q' hq hq' h₀ => (hfiled hq hq').kept h₀
      quiz := ⟨title, slug, description, r, htitle, hslug, hdesc, mem_of_rowAt hrow,
        key_of_rowAt hrow, ?_⟩
      questions := fun i => ?_, question_row := fun q' hq' => ?_
      complete := fun q hq h₀ => ?_
      choices := fun i q' hq' j => ?_, choice_row := fun q' hq' x hx => ?_
      question_gone := fun r hr hp hn r' hr' => ?_
      choice_gone := fun r hr hq hn r' hr' => ?_ }
  · rw [Tables.filter_quizzes hrec.inv.1, Tables.quizAt, hrec.inv.2, ← Tables.quizAt, hat]
    simp
  · rw [Tables.filter_questions hrec.inv.1, hrec.questionUnder]
  · obtain ⟨r, hr, _⟩ := hrec.row_of_mem hq'
    exact Option.isSome_of_eq_some hr
  · obtain ⟨k, q', hk, hk', _⟩ := exists_across hrec.length hq
    exact (hfiled hk hk').complete h₀
  · rw [Tables.filter_choices hrec.inv.1, hrec.choiceUnder hq']
  · obtain ⟨k, q, hk', hk, _⟩ := exists_across hrec.length.symm hq'
    exact (hfiled hk hk').choice_row x hx
  · exact hrec.question_gone hc₁ (hqs ▸ hr) hp hn hr'
  · obtain ⟨q, hq, hid, hp⟩ := hq
    exact hrec.choice_gone hc₁ (hxs ▸ hr) (hqs ▸ hq) hid hp hn hr'

theorem Store.updateQuiz_saves_revised :
    Quiz.revised.Saved (updateQuiz .calm (.revised, .onto .demo)).2.1 .demo
      (updateQuiz .calm (.revised, .onto .demo)).2.2.committed := by
  have h : (updateQuiz .calm (.revised, .onto .demo)).1 = .ok () := by decide +kernel
  exact updateQuiz_saves (c := .onto .demo) reachable_demo (Prod.ext h rfl)

end TriviaStore
