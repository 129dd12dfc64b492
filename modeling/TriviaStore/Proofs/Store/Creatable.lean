import TriviaStore.Proofs.Quiz.Problems
import TriviaStore.Proofs.Store.Acceptance
import TriviaStore.Proofs.Store.Success
import TriviaStore.Proofs.Time.Timestamp

/-! # What can be created

Undisturbed, a quiz is created exactly if nothing is missing that its rows need and its slug is
free, as long as there are ids left for the rows. A question is created exactly if its quiz is
stored and nothing is missing. In particular a quiz in which no problem is reported can be created
under a slug that is free.
-/

namespace TriviaStore

open Attempt

variable {cond : Conditions} {clock : Instant} {c c' : Connection} {t : Tables} {p : Int}
  {k m n : Nat} {v v' : Quiz}

theorem Attempt.fst_eq_ok {σ α : Type} {a : Attempt σ α} {s : σ} {x : α} :
    (a s).1 = .ok x ↔ ∃ s', a s = (.ok x, s') := by
  constructor
  · exact fun h => ⟨(a s).2, Prod.ext h rfl⟩
  · rintro ⟨s', h⟩
    rw [h]

/-- Nothing is missing that the rows of a quiz need, and no stored quiz has its slug. -/
structure Quiz.Insertable (t : Tables) (v : Quiz) : Prop where
  title : v.title.isSome = true
  slug : ∃ slug, v.slug = some slug ∧ ∀ r ∈ t.quizzes, r.slug ≠ slug
  questions : ∀ q ∈ v.questions, q.Insertable

/-! ## Forgotten questions -/

namespace Question

theorem admissible_forget {q : Question} : q.forget.Admissible ↔ q.Insertable := by
  constructor
  · rintro ⟨⟨hposition, hchoices⟩, _⟩
    refine ⟨hposition, fun x hx => ?_⟩
    obtain ⟨htext, hcorrect⟩ := hchoices _ (List.mem_map_of_mem hx)
    exact ⟨htext, hcorrect⟩
  · rintro ⟨hposition, hchoices⟩
    refine ⟨⟨hposition, fun x hx => ?_⟩, fun hne => absurd rfl hne⟩
    obtain ⟨y, hy, rfl⟩ := List.mem_map.mp hx
    exact ⟨(hchoices y hy).text, (hchoices y hy).correct⟩

theorem countP_forget (qs : List Question) :
    (qs.map forget).countP (·.id == 0) = qs.length := by
  rw [List.countP_map]
  exact List.countP_eq_length.mpr fun _ _ => rfl

theorem newChoices_forget (qs : List Question) :
    newChoices (qs.map forget) = (qs.flatMap (·.choices)).length := by
  induction qs with
  | nil => rfl
  | cons q qs ih =>
    have hnew : q.forget.desired.countP (·.id == 0) = q.forget.desired.length :=
      List.countP_eq_length.mpr fun x hx => beq_iff_eq.mpr (desired_new rfl x hx)
    have hlength : q.forget.choices.length = q.choices.length := List.length_map _
    rw [List.map_cons, newChoices_cons, ih, List.flatMap_cons, List.length_append, hnew,
      length_desired, hlength]

/-- Questions as ones that were never stored need a stored quiz and room for all that is in them. -/
theorem ready_forget (qs : List Question) (hs : c.working.Sound)
    (hparent : ∃ r ∈ c.working.quizzes, r.id = p) (h : ∀ q ∈ qs, q.Insertable)
    (hquestions : Room (c.working.questions.map (·.id)) (qs.length + m))
    (hchoices : Room (c.working.choices.map (·.id)) ((qs.flatMap (·.choices)).length + n)) :
    Ready c.working p m n (qs.map forget) c := by
  have hnew : ∀ q ∈ qs.map forget, q.id = 0 := by
    intro q hq
    obtain ⟨_, _, rfl⟩ := List.mem_map.mp hq
    rfl
  refine
    { sound := hs, quizzes := rfl, parent := hparent, admissible := fun q hq => ?_
      distinct := ?_, stored := fun q hq hid => absurd (hnew q hq) hid
      questions := by rwa [countP_forget], choices := by rwa [newChoices_forget] }
  · obtain ⟨d, hd, rfl⟩ := List.mem_map.mp hq
    exact admissible_forget.mpr (h d hd)
  · exact List.pairwise_map.mpr (List.pairwise_of_forall fun _ _ hne => absurd rfl hne)

end Question

/-! ## Creating -/

namespace Store

/-- Inserting a quiz's row on a clock within the calendar. -/
theorem insertQuiz_of_ok {now : Moment} {id : Int} {t : Tables}
    (hnow : Moment.now? clock = some now)
    (hi : c.working.insertQuiz v.title v.slug v.description now.toMillis = .ok (id, t)) :
    insertQuiz ⟨clock, .quiet⟩ (v, c) = (.ok (), ({ v with id, createdAt := some now.toInstant },
      { c with working := t, issued := c.issued ++ [.insert .quizzes] })) := by
  have hw : ((Connection.insert .quiet .quizzes
      (Tables.insertQuiz v.title v.slug v.description now.toMillis)).wrapping
        fun _ => s!"failed to create quiz (title: {Text.quotedOrNone v.title})") c = (.ok id, _) :=
    wrapping_eq_ok.mpr (Connection.insert_quiet hi)
  simp only [insertQuiz, hnow, hw]

theorem insert_ok (ht : t.Sound) (hclock : Moment.InCalendar clock) (hv : v.Insertable t)
    (hroom : Room (t.quizzes.map (·.id)) (n + 1)) :
    ∃ now id t', Moment.now? clock = some now ∧
      t.insertQuiz v.title v.slug v.description now.toMillis = .ok (id, t') := by
  obtain ⟨now, hnow⟩ := Moment.exists_now? hclock
  obtain ⟨htitle, ⟨slug, hslug, hfree⟩, _⟩ := hv
  obtain ⟨title, htitle⟩ := Option.isSome_iff_exists.mp htitle
  exact ⟨now, _, _, hnow, Tables.insertQuiz_eq_ok.mpr ⟨Moment.fits_toMillis hnow, title, slug,
    htitle, hslug, hfree, rfl, hroom.fits_freshId ht.quiz_ids_pos, rfl⟩⟩

/-- What reconciling the questions takes once the quiz's row is inserted. -/
theorem ready_inserted {now : Moment} {id : Int} {t : Tables} (c₁ : Connection) (hs : t.Sound)
    (hnow : Moment.now? clock = some now) (hquestions : ∀ q ∈ v.questions, q.Insertable)
    (hi : t.insertQuiz v.title v.slug v.description now.toMillis = .ok (id, c₁.working))
    (hroom : t.HasRoom n (v.questions.length + m) ((v.questions.flatMap (·.choices)).length + k)) :
    Question.Ready c₁.working id m k (v.questions.map Question.forget) c₁ := by
  have hsound := hs.insertQuiz hnow hi
  obtain ⟨_, title, slug, _, _, _, rfl, _, ht⟩ := Tables.insertQuiz_eq_ok.mp hi
  refine Question.ready_forget v.questions hsound ?_ hquestions ?_ ?_
  · rw [ht]
    exact ⟨_, List.mem_append_right _ List.mem_cons_self, rfl⟩
  · rw [ht]
    exact hroom.questions
  · rw [ht]
    exact hroom.choices

theorem upsertQuiz_of_new (hs : c.working.Sound) (hclock : Moment.InCalendar clock)
    (hv : v.Insertable c.working) (hroom : c.working.HasRoom 1 v.questions.length
      (v.questions.flatMap (·.choices)).length) :
    ∃ y, upsertQuiz ⟨clock, .quiet⟩ (v.forget, c) = (.ok (), y) := by
  obtain ⟨now, id, t, hnow, hi⟩ := insert_ok hs hclock hv hroom.quizzes
  have hinsert := insertQuiz_of_ok (v := v.forget) hnow hi
  let c₁ : Connection := { c with working := t, issued := c.issued ++ [.insert .quizzes] }
  have hready : Question.Ready t id 0 0 (v.questions.map Question.forget) c₁ :=
    ready_inserted (n := 1) c₁ hs hnow hv.questions hi hroom
  obtain ⟨y, hreconcile⟩ := reconcileQuestions_ok
    (v := { v.forget with id := id, createdAt := some now.toInstant }) clock hready
  have hnew : v.forget.id = 0 := rfl
  unfold upsertQuiz
  rw [bind_of_ok (read_run _)]
  dsimp only
  rw [if_pos hnew]
  exact ⟨y, bind_eq_ok.mpr ⟨(), _, hinsert, inContext_eq_ok.mpr hreconcile⟩⟩

theorem createQuiz_of_insertable (hs : c.committed.Sound) (hclock : Moment.InCalendar clock)
    (hv : v.Insertable c.committed) (hroom : c.committed.HasRoom 1 v.questions.length
      (v.questions.flatMap (·.choices)).length) :
    ∃ y, createQuiz ⟨clock, .quiet⟩ (v, c) = (.ok (), y) := by
  obtain ⟨y, hy⟩ := transacting_of_ok (c := c) (x := v.forget)
    (upsertQuiz ⟨clock, .quiet⟩) fun c₁ hw =>
      upsertQuiz_of_new (hw ▸ hs) hclock (hw ▸ hv) (hw ▸ hroom)
  unfold createQuiz
  rw [bind_of_ok (update_run _ _)]
  exact ⟨_, bind_eq_ok.mpr ⟨(), y, hy, update_run _ _⟩⟩

theorem insertable_of_createQuiz (hs : c.committed.Sound)
    (h : createQuiz cond (v, c) = (.ok (), (v', c'))) : v.Insertable c.committed := by
  obtain ⟨now, c₁, c₂, ids, hnow, hi, hr, _, _⟩ := createQuiz_ok h
  obtain ⟨_, title, slug, htitle, hslug, hfree, _⟩ := Tables.insertQuiz_eq_ok.mp hi
  have hall := (Question.view cond.plan c₁.working).forall_of_reconcile (P := Question.Admissible)
    (fun hinv hp => Question.admissible_of_place hinv.1 hp) ⟨hs.insertQuiz hnow hi, rfl⟩ hr
  exact ⟨by simp [htitle], ⟨slug, hslug, hfree⟩, fun q hq =>
    Question.admissible_forget.mp (hall _ (List.mem_map_of_mem hq))⟩

section Questions

variable {q q' : Question}

theorem createQuestion_of_insertable (hs : c.committed.Sound)
    (hparent : ∃ r ∈ c.committed.quizzes, r.id = q.quizId) (hq : q.Insertable)
    (hroom : c.committed.HasRoom 0 1 q.choices.length) :
    ∃ y, createQuestion ⟨clock, .quiet⟩ (q, c) = (.ok (), y) := by
  obtain ⟨y, hy⟩ := transacting_of_ok (c := c) (x := q.forget)
    ((Question.reconciler .quiet).upsert none) fun c₁ hw => by
      have hready : Question.Ready c₁.working q.quizId 0 0 [q.forget] c₁ := by
        rw [← hw] at hs hparent hroom
        have hchoices : ([q].flatMap (·.choices)).length = q.choices.length := by simp
        exact Question.ready_forget [q] hs hparent (by simpa using hq) hroom.questions
          (hchoices ▸ hroom.choices)
      obtain ⟨q', c₂, hp⟩ := Question.accepts.place_ok hready
      have hnew : (Question.reconciler .quiet).id q.forget = 0 := rfl
      exact ⟨_, (Reconciler.upsert_of_new hnew).trans (Reconciler.place_eq_ok.mp hp)⟩
  unfold createQuestion
  rw [bind_of_ok (update_run _ _)]
  exact ⟨_, bind_eq_ok.mpr ⟨(), y, hy, update_run _ _⟩⟩

theorem insertable_of_createQuestion (hs : c.committed.Sound)
    (h : createQuestion cond (q, c) = (.ok (), (q', c'))) :
    (∃ r ∈ c.committed.quizzes, r.id = q.quizId) ∧ q.Insertable := by
  obtain ⟨c₁, c₂, hw, hp, _⟩ := createQuestion_ok h
  rw [← hw] at hs ⊢
  obtain ⟨_, _, _, hi, _⟩ := Question.place_new rfl hp
  obtain ⟨_, _, _, _, hparent, _⟩ := Tables.insertQuestion_eq_ok.mp hi
  exact ⟨hparent, Question.admissible_forget.mp (Question.admissible_of_place hs hp)⟩

end Questions

end Store

/-! ## Quizzes without problems -/

theorem isSome_of_not_absent {text : Option String} (h : ¬Absent text) : text.isSome = true := by
  cases text with
  | none => exact absurd (.inl rfl) h
  | some _ => rfl

/-- The positions and flags, which no report mentions, are there. -/
def Question.Marked (q : Question) : Prop :=
  (∃ position, q.position = some position ∧ fits position = true) ∧
    ∀ x ∈ q.choices, x.correct.isSome = true

/-- A quiz without problems has all the texts that its rows need. -/
theorem Quiz.insertable_of_problems (h : v.problems = [])
    (hfree : ∀ r ∈ t.quizzes, v.slug ≠ some r.slug) (hmarked : ∀ q ∈ v.questions, q.Marked) :
    v.Insertable t := by
  obtain ⟨htitle, hslug, -, hquestions⟩ := Quiz.problems_eq_nil.mp h
  obtain ⟨slug, hslug⟩ := Option.isSome_iff_exists.mp (isSome_of_not_absent hslug)
  refine ⟨isSome_of_not_absent htitle, ⟨slug, hslug, fun r hr he => ?_⟩, fun q hq => ?_⟩
  · exact hfree r hr (by rw [hslug, he])
  · obtain ⟨-, hchoices⟩ := hquestions q hq
    obtain ⟨hposition, hcorrect⟩ := hmarked q hq
    refine ⟨hposition, fun x hx => ⟨?_, hcorrect x hx⟩⟩
    exact isSome_of_not_absent (Choice.problems_eq_nil.mp (hchoices x hx))

/-! ## Creations -/

/-- What exactly can be created on a connection, at a time, as far as there are ids left. -/
structure Store.Creates (clock : Instant) (c : Connection) : Prop where
  quiz (v : Quiz) : c.committed.HasRoom 1 v.questions.length
      (v.questions.flatMap (·.choices)).length →
    ((Store.createQuiz ⟨clock, .quiet⟩ (v, c)).1 = .ok () ↔ v.Insertable c.committed)
  question (q : Question) : c.committed.HasRoom 0 1 q.choices.length →
    ((Store.createQuestion ⟨clock, .quiet⟩ (q, c)).1 = .ok () ↔
      (∃ r ∈ c.committed.quizzes, r.id = q.quizId) ∧ q.Insertable)
  /-- No report leaves out what would keep a quiz from being created. -/
  valid (v : Quiz) : c.committed.HasRoom 1 v.questions.length
      (v.questions.flatMap (·.choices)).length →
    v.problems = [] → (∀ q ∈ v.questions, q.Marked) →
    (∀ r ∈ c.committed.quizzes, v.slug ≠ some r.slug) →
    (Store.createQuiz ⟨clock, .quiet⟩ (v, c)).1 = .ok ()

theorem Store.creates (ht : Reachable c.committed) (hclock : Moment.InCalendar clock) :
    Store.Creates clock c where
  quiz v hroom := by
    rw [fst_eq_ok]
    constructor
    · rintro ⟨_, h⟩
      exact insertable_of_createQuiz ht.sound h
    · exact fun hv => createQuiz_of_insertable ht.sound hclock hv hroom
  question q hroom := by
    rw [fst_eq_ok]
    constructor
    · rintro ⟨_, h⟩
      exact insertable_of_createQuestion ht.sound h
    · exact fun ⟨hparent, hq⟩ => createQuestion_of_insertable ht.sound hparent hq hroom
  valid v hroom h hmarked hfree :=
    fst_eq_ok.mpr (createQuiz_of_insertable ht.sound hclock
      (Quiz.insertable_of_problems h hfree hmarked) hroom)

/-- A quiz in which ids are given and texts of questions are missing can be created, a question of
no quiz cannot. -/
theorem Store.creates_revised :
    (Store.createQuiz .calm (.revised, .onto .demo)).1 = .ok () ∧
      (Store.createQuestion .calm (.capital "Italy" 10 "Rome" [], .onto .demo)).1 ≠ .ok () := by
  have hclock : Moment.InCalendar ⟨0⟩ := ⟨by decide, by decide⟩
  have h := Store.creates (c := .onto .demo) reachable_demo hclock
  constructor
  · exact (h.quiz .revised (by decide +kernel)).mpr ⟨rfl, ⟨_, rfl, by decide +kernel⟩, by decide⟩
  · intro hok
    obtain ⟨⟨r, hr, hid⟩, _⟩ := (h.question _ (by decide +kernel)).mp hok
    exact absurd hid (Int.ne_of_gt (reachable_demo.sound.quizzes_pos r hr))

end TriviaStore
