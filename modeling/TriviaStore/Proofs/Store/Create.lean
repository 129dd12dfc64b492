import TriviaStore.Proofs.Store.Append
import TriviaStore.Proofs.Store.Authored
import TriviaStore.Proofs.Store.Reading
import TriviaStore.Proofs.Store.Success
import TriviaStore.Proofs.Time.Timestamp

/-! # What a creation stores

Creating a quiz appends its rows, and reading it gives back the quiz that came of creating it, with
what was missing filled in. The two meet at the appended rows: their ids ascend in the order of the
lists, and each row names the entity above it, so that filtering the tables finds the rows of every
list again, in its order.
-/

namespace TriviaStore

variable {cond : Conditions} {plan : Plan Statement} {c c' : Connection} {v v' : Quiz}
  {t t' : Tables} {p : Int}

/-- The question as it is read: a missing text or image comes back empty. -/
def Question.filled (q : Question) : Question :=
  { q with text := some (q.text.getD ""), imageUrl := some (q.imageUrl.getD "") }

/-- The quiz as it is read: a missing description comes back empty. -/
def Quiz.filled (v : Quiz) : Quiz :=
  { v with description := some (v.description.getD ""), questions := v.questions.map .filled }

/-! ## Reading appended rows -/

theorem Choice.choice_of_row {x : Choice} {r : ChoiceRow} (h : x.row? = some r) : r.choice = x := by
  obtain ⟨text, correct, ht, hc, rfl⟩ := row?_eq_some h
  obtain ⟨id, questionId, _, _⟩ := x
  cases ht
  cases hc
  cases correct <;> rfl

theorem Question.row?_eq_some {q : Question} {r : QuestionRow} (h : q.row? = some r) :
    ∃ position, q.position = some position ∧
      r = ⟨q.id, q.quizId, q.text.getD "", q.imageUrl.getD "", position⟩ := by
  obtain ⟨position, hp, rfl⟩ := Option.map_eq_some_iff.mp h
  exact ⟨position, hp, rfl⟩

/-- Filtering all that is below by the entity above finds what is below that entity. -/
theorem filter_flatMap_key {α β : Type} {id : α → Int} {key : β → Int} {f : α → List β}
    {as : List α} (hd : as.Pairwise fun a b => id a ≠ id b)
    (hf : ∀ a ∈ as, ∀ b ∈ f a, key b = id a) {a : α} (ha : a ∈ as) :
    (as.flatMap f).filter (key · == id a) = f a := by
  induction as with
  | nil => cases ha
  | cons d as ih =>
    obtain ⟨hne, hd⟩ := List.pairwise_cons.mp hd
    have hall : ∀ a' ∈ d :: as, id a' = id a → (f a').filter (key · == id a) = f a' := by
      intro a' ha' he
      refine List.filter_eq_self.mpr fun b hb => ?_
      rw [hf a' ha' b hb, he, beq_self_eq_true]
    have hnone : ∀ a' ∈ d :: as, id a' ≠ id a → (f a').filter (key · == id a) = [] := by
      intro a' ha' he
      refine List.filter_eq_nil_iff.mpr fun b hb => ?_
      rw [hf a' ha' b hb]
      simpa using he
    rw [List.flatMap_cons, List.filter_append]
    rcases List.mem_cons.mp ha with rfl | hm
    · have hrest : (as.flatMap f).filter (key · == id a) = [] := by
        rw [List.filter_flatMap]
        refine List.flatMap_eq_nil_iff.mpr fun a' ha' => ?_
        exact hnone a' (List.mem_cons_of_mem _ ha') (hne a' ha').symm
      rw [hall a ha rfl, hrest, List.append_nil]
    · rw [hnone d List.mem_cons_self (hne a hm),
        ih hd (fun a ha => hf a (List.mem_cons_of_mem _ ha)) hm, List.nil_append]

namespace Question.Appended

variable {qs : List Question} {rows : List QuestionRow} {below : List ChoiceRow}
  (h : Question.Appended p qs t t' rows below) (ht' : t'.Sound)

include h ht'

/-- The new ids ascend, and lie above those there were. -/
theorem question_ids : (qs.map (·.id)).Pairwise (· < ·) ∧
    ∀ q ∈ qs, ∀ r ∈ t.questions, r.id < q.id := by
  have hs := ht'.questions
  rw [h.tables] at hs
  have hids : rows.map (·.id) = qs.map (·.id) := by
    refine h.question_rows.map_eq fun q _ r hr => ?_
    obtain ⟨_, _, rfl⟩ := Question.row?_eq_some hr
    rfl
  obtain ⟨_, hnew, habove⟩ := List.pairwise_append.mp hs
  refine ⟨hids ▸ List.pairwise_map.mpr hnew, fun q hq r hr => ?_⟩
  obtain ⟨r', hr', he⟩ := List.mem_map.mp (hids ▸ List.mem_map_of_mem hq : q.id ∈ rows.map (·.id))
  exact he ▸ habove r hr r' hr'

theorem choice_ids : ((qs.flatMap (·.choices)).map (·.id)).Pairwise (· < ·) ∧
    ∀ q ∈ qs, ∀ x ∈ q.choices, ∀ r ∈ t.choices, r.id < x.id := by
  have hs := ht'.choices
  rw [h.tables] at hs
  have hids : below.map (·.id) = (qs.flatMap (·.choices)).map (·.id) := by
    refine h.choice_rows.map_eq fun x _ r hr => ?_
    obtain ⟨_, _, _, _, rfl⟩ := Choice.row?_eq_some hr
    rfl
  obtain ⟨_, hnew, habove⟩ := List.pairwise_append.mp hs
  refine ⟨hids ▸ List.pairwise_map.mpr hnew, fun q hq x hx r hr => ?_⟩
  have hx : x.id ∈ below.map (·.id) :=
    hids ▸ List.mem_map_of_mem (List.mem_flatMap.mpr ⟨q, hq, hx⟩)
  obtain ⟨r', hr', he⟩ := List.mem_map.mp hx
  exact he ▸ habove r hr r' hr'

theorem choicesBelow (ht : t.Sound) {q : Question} (hq : q ∈ qs) :
    t'.choicesBelow q.id = q.choices := by
  have hread : below.map ChoiceRow.choice = qs.flatMap (·.choices) := by
    rw [h.choice_rows.map_eq fun x _ r hr => Choice.choice_of_row hr, List.map_id']
  have hold : t.choices.filter (·.questionId == q.id) = [] := by
    refine List.filter_eq_nil_iff.mpr fun r hr => ?_
    obtain ⟨o, ho, he⟩ := ht.choice_owner r hr
    have hlt := (h.question_ids ht').2 q hq o ho
    simp only [beq_iff_eq]
    omega
  have hnew : (below.filter (·.questionId == q.id)).map ChoiceRow.choice =
      (below.map ChoiceRow.choice).filter (·.questionId == q.id) := by
    rw [List.filter_map]
    rfl
  have hne : qs.Pairwise fun a b => a.id ≠ b.id :=
    (List.pairwise_map.mp (h.question_ids ht').1).imp Int.ne_of_lt
  rw [Tables.choicesBelow, h.tables, List.filter_append, hold, List.nil_append, hnew, hread]
  exact filter_flatMap_key hne (fun q hq x hx => (h.parents q hq).2 x hx) hq

/-- Reading under the parent gives the questions that were added. -/
theorem questionsBelow (ht : t.Sound) (hp : ∀ r ∈ t.questions, r.quizId ≠ p) :
    t'.questionsBelow p = qs.map Question.filled := by
  have hold : t.questions.filter (·.quizId == p) = [] :=
    List.filter_eq_nil_iff.mpr fun r hr => by simpa using hp r hr
  have hrows : ∀ r ∈ rows, r.quizId = p := by
    have hids : rows.map (·.quizId) = qs.map (·.quizId) := by
      refine h.question_rows.map_eq fun q _ r hr => ?_
      obtain ⟨_, _, rfl⟩ := Question.row?_eq_some hr
      rfl
    intro r hr
    obtain ⟨q, hq, he⟩ := List.mem_map.mp (hids ▸ List.mem_map_of_mem hr : r.quizId ∈ qs.map (·.quizId))
    exact he ▸ (h.parents q hq).1
  have hnew : rows.filter (·.quizId == p) = rows :=
    List.filter_eq_self.mpr fun r hr => by simpa using hrows r hr
  have hall : t'.questions.filter (·.quizId == p) = rows := by
    rw [h.tables, List.filter_append, hold, hnew, List.nil_append]
  rw [Tables.questionsBelow, hall]
  refine h.question_rows.map_eq fun q hq r hr => ?_
  obtain ⟨position, hpos, rfl⟩ := Question.row?_eq_some hr
  rw [QuestionRow.question, h.choicesBelow ht' ht hq]
  simp only [Question.ofRecord, QuestionRow.record, Question.filled, hpos, Option.getD_some]

end Question.Appended

/-! ## Created quizzes -/

/-- What a creation has made of a quiz and of the rows of the store. -/
structure Quiz.Created (clock : Instant) (v v' : Quiz) (t t' : Tables) : Prop where
  /-- Nothing but ids, parents and the creation time has changed in the quiz passed in. -/
  authored : v'.authored = v.authored
  /-- The creation time is what the clock showed, cut to the millisecond. -/
  createdAt : v'.createdAt = some (.ofMillis clock.toMillis)
  parents : ∀ q ∈ v'.questions, q.quizId = v'.id ∧ ∀ x ∈ q.choices, x.questionId = q.id
  /-- Reading the quiz, on any connection, gives it back with what was missing filled in. -/
  read : ∀ d : Connection, d.committed = t' → (Store.getQuiz .quiet v'.id d).1 = .ok v'.filled
  question_ids : (v'.questions.map (·.id)).Pairwise (· < ·)
  choice_ids : ((v'.questions.flatMap (·.choices)).map (·.id)).Pairwise (· < ·)
  /-- New ids lie above all ids that were in their table. -/
  above : (∀ r ∈ t.quizzes, r.id < v'.id) ∧ (∀ q ∈ v'.questions, ∀ r ∈ t.questions, r.id < q.id) ∧
    ∀ q ∈ v'.questions, ∀ x ∈ q.choices, ∀ r ∈ t.choices, r.id < x.id
  /-- The rows that were there are there still. -/
  former : t.quizzes <+: t'.quizzes ∧ t.questions <+: t'.questions ∧ t.choices <+: t'.choices

/-- A creation that succeeds leaves the quiz and the store as told. -/
theorem Store.createQuiz_creates (ht : Reachable c.committed)
    (h : Store.createQuiz cond (v, c) = (.ok (), (v', c'))) :
    v.Created cond.clock v' c.committed c'.committed := by
  have hc := ht.sound
  obtain ⟨now, c₁, c₂, ids, hnow, hi, hr, hv, hc'⟩ := Store.createQuiz_ok h
  have hc₁ := hc.insertQuiz hnow hi
  obtain ⟨_, title, slug, htitle, hslug, _, hid, _, hw⟩ := Tables.insertQuiz_eq_ok.mp hi
  have hforget : ∀ q ∈ v.questions.map Question.forget, q.id = 0 := by
    intro q hq
    obtain ⟨_, _, rfl⟩ := List.mem_map.mp hq
    rfl
  -- Nothing is below the new quiz yet: questions belong to quizzes with smaller ids.
  have hnone : ∀ r ∈ c₁.working.questions, r.quizId ≠ v'.id := by
    intro r hr
    rw [hw] at hr
    obtain ⟨o, ho, he⟩ := hc.question_owner r hr
    have hlt : o.id < freshId (c.committed.quizzes.map QuizRow.id) := lt_fresh_of_mem ho
    rw [← hid, he] at hlt
    exact Int.ne_of_lt hlt
  obtain ⟨rows, below, happ⟩ := Question.reconcile_new hc₁ hforget hnone hr
  have hc₂ : c₂.working.Sound :=
    ((Question.view cond.plan c₁.working).reconcile ⟨hc₁, rfl⟩ hr).inv.1
  have hclock := (Moment.now?_eq_some hnow).2
  obtain ⟨hqids, hqabove⟩ := happ.question_ids hc₂
  obtain ⟨hxids, hxabove⟩ := happ.choice_ids hc₂
  have htables := happ.tables
  rw [hw] at htables hqabove hxabove
  refine
    { authored := Store.fixes_createQuiz.eq h, createdAt := by rw [hv, hclock]
      parents := happ.parents, read := fun d hd => ?_, question_ids := hqids, choice_ids := hxids
      above := ⟨fun r hr => by rw [hid]; exact lt_fresh_of_mem hr, hqabove, hxabove⟩
      former := by rw [hc', htables]; exact ⟨⟨_, rfl⟩, ⟨_, rfl⟩, ⟨_, rfl⟩⟩ }
  obtain ⟨m, hm, hmi⟩ := Moment.ofMillis?_toMillis hnow
  rw [hc'] at hd
  have hrow : d.committed.quizAt v'.id =
      some ⟨v'.id, title, slug, v.description.getD "", some now.toMillis⟩ := by
    refine (hd ▸ hc₂).quizzes.rowAt_eq_some.mpr ⟨?_, rfl⟩
    rw [hd, htables]
    exact List.mem_append_right _ List.mem_cons_self
  have hrec : QuizRow.record ⟨v'.id, title, slug, v.description.getD "", some now.toMillis⟩ =
      .ok ⟨v'.id, some title, some slug, some (v.description.getD ""), some now.toInstant⟩ := by
    simp only [QuizRow.record, hm, hmi]
  rw [Store.getQuiz_of_row (hd ▸ hc₂) hrow hrec rfl, hd, happ.questionsBelow hc₂ hc₁ hnone]
  rw [hv]
  simp only [Quiz.ofRecord, Quiz.filled, htitle, hslug]

theorem Store.createQuiz_creates_revised :
    Quiz.revised.Created ⟨0⟩ (createQuiz .calm (.revised, .onto .demo)).2.1 .demo
      (createQuiz .calm (.revised, .onto .demo)).2.2.committed := by
  have h : (createQuiz .calm (.revised, .onto .demo)).1 = .ok () := by decide +kernel
  exact createQuiz_creates (c := .onto .demo) reachable_demo (Prod.ext h rfl)

end TriviaStore
