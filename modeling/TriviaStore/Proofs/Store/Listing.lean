import TriviaStore.Proofs.Store.Operation
import TriviaStore.Proofs.Store.Reading
import TriviaStore.Proofs.Time.Timestamp
import Mathlib.Data.List.Perm.Basic

/-! # The listing of a store

Undisturbed, listing a store that can be reached gives every stored row once, under the parent that
it names, and agrees with getting quizzes and questions one by one. The filters that assemble the
aggregates lose no row because every row names a parent that is stored.
-/

namespace TriviaStore

open Attempt

variable {c : Connection} {t : Tables} {i : Int}

/-! ## Grouped rows -/

/-- Rows grouped by keys that are all different and cover them are those rows. -/
theorem perm_flatMap_filter {α : Type} {key : α → Int} {keys : List Int} {l : List α}
    (hn : keys.Nodup) (hl : ∀ r ∈ l, key r ∈ keys) :
    (keys.flatMap fun k => l.filter (key · == k)).Perm l := by
  induction keys generalizing l with
  | nil =>
    have hnil : l = [] := List.eq_nil_iff_forall_not_mem.mpr fun r hr => by cases hl r hr
    rw [hnil]
    exact .nil
  | cons k keys ih =>
    obtain ⟨hk, hn⟩ := List.nodup_cons.mp hn
    have hrest : (keys.flatMap fun k' => l.filter (key · == k')) =
        keys.flatMap fun k' => (l.filter fun r => !(key r == k)).filter (key · == k') := by
      refine List.flatMap_congr fun k' hk' => ?_
      have hne : k' ≠ k := fun he => hk (he ▸ hk')
      rw [List.filter_filter]
      refine List.filter_congr fun r _ => ?_
      by_cases hr : key r = k' <;> simp [hr, hne]
    have hothers : ∀ r ∈ l.filter fun r => !(key r == k), key r ∈ keys := by
      intro r hr
      obtain ⟨hr, hne⟩ := List.mem_filter.mp hr
      exact (List.mem_cons.mp (hl r hr)).resolve_left (by simpa using hne)
    rw [List.flatMap_cons, hrest]
    exact ((ih hn hothers).append_left _).trans (List.filter_append_perm _ l)

theorem Ascending.nodup {α : Type} {key : α → Int} {l : List α} (h : Ascending key l) :
    (l.map key).Nodup :=
  List.pairwise_map.mpr (h.imp Int.ne_of_lt)

namespace Tables

theorem perm_questionsBelow (ht : t.Sound) :
    ((t.quizzes.map (·.id)).flatMap t.questionsBelow).Perm
      (t.questions.map (QuestionRow.question t)) := by
  have hp : ((t.quizzes.map (·.id)).flatMap fun i => t.questions.filter (·.quizId == i)).Perm
      t.questions := by
    apply perm_flatMap_filter ht.quizzes.nodup
    intro r hr
    obtain ⟨q, hq, hid⟩ := ht.question_owner r hr
    exact hid ▸ List.mem_map_of_mem hq
  have hm := hp.map (QuestionRow.question t)
  rwa [List.map_flatMap] at hm

theorem perm_choicesBelow (ht : t.Sound) :
    ((t.questions.map (·.id)).flatMap t.choicesBelow).Perm (t.choices.map ChoiceRow.choice) := by
  have hp : ((t.questions.map (·.id)).flatMap fun i => t.choices.filter (·.questionId == i)).Perm
      t.choices := by
    apply perm_flatMap_filter ht.questions.nodup
    intro r hr
    obtain ⟨q, hq, hid⟩ := ht.choice_owner r hr
    exact hid ▸ List.mem_map_of_mem hq
  have hm := hp.map ChoiceRow.choice
  rwa [List.map_flatMap] at hm

theorem quizId_of_below {q : Question} (hq : q ∈ t.questionsBelow i) : q.quizId = i := by
  obtain ⟨r, hr, rfl⟩ := List.mem_map.mp hq
  exact of_decide_eq_true (List.mem_filter.mp hr).2

theorem questionId_of_below {x : Choice} (hx : x ∈ t.choicesBelow i) : x.questionId = i := by
  obtain ⟨r, hr, rfl⟩ := List.mem_map.mp hx
  exact of_decide_eq_true (List.mem_filter.mp hr).2

theorem choices_of_below {q : Question} (hq : q ∈ t.questionsBelow i) :
    q.choices = t.choicesBelow q.id := by
  obtain ⟨r, _, rfl⟩ := List.mem_map.mp hq
  rfl

theorem ascending_questionsBelow (ht : t.Sound) (i : Int) :
    ((t.questionsBelow i).map (·.id)).Pairwise (· < ·) := by
  rw [questionsBelow, List.map_map]
  exact List.pairwise_map.mpr (ht.questions.filter _)

theorem ascending_choicesBelow (ht : t.Sound) (i : Int) :
    ((t.choicesBelow i).map (·.id)).Pairwise (· < ·) := by
  rw [choicesBelow, List.map_map]
  exact List.pairwise_map.mpr (ht.choices.filter _)

end Tables

/-! ## Whole quizzes -/

/-- The record of a row that was stored on a clock: the creation time as an instant. -/
def QuizRow.told (r : QuizRow) : QuizRecord :=
  ⟨r.id, some r.title, some r.slug, some r.description, r.createdAt.map .ofMillis⟩

/-- The quiz that a row stands for, with the questions whose rows name it. -/
def QuizRow.quiz (t : Tables) (r : QuizRow) : Quiz := .ofRecord r.told (t.questionsBelow r.id)

/-- Every creation time was taken from a clock, so it lies within the calendar. -/
theorem Tables.Sound.record (ht : t.Sound) {r : QuizRow} (hr : r ∈ t.quizzes) :
    r.record = .ok r.told := by
  obtain ⟨clock, now, hn, hc⟩ := ht.created r hr
  obtain ⟨m, hm, _⟩ := Moment.ofMillis?_toMillis hn
  have hi : m.toInstant = .ofMillis now.toMillis := Moment.toInstant_ofInstant? hm
  simp only [QuizRow.record, QuizRow.told, hc, hm, hi, Option.map_some]

theorem mapM_of_ok {α β : Type} {f : α → Except Failure β} {g : α → β} {l : List α}
    (h : ∀ a ∈ l, f a = .ok (g a)) : l.mapM f = .ok (l.map g) := by
  induction l with
  | nil => rfl
  | cons a l ih =>
    rw [List.mapM_cons, h a List.mem_cons_self, ih fun b hb => h b (List.mem_cons_of_mem _ hb)]
    rfl

namespace Store

theorem listQuizzes_ok (hc : c.committed.Sound) :
    (listQuizzes .quiet c).1 = .ok (c.committed.quizzes.map (QuizRow.quiz c.committed)) := by
  have hall : c.refresh.working.allQuizzes = .ok (c.committed.quizzes.map QuizRow.told) :=
    mapM_of_ok fun r hr => hc.record hr
  refine Reads.reading (Reads.wrapping ((reads_query hall).bind fun c₁ hw => ?_))
  have hw : c₁.working = c.committed := hw
  have hload : Reads (collect (loadQuiz .quiet) (c.committed.quizzes.map QuizRow.told)) c₁
      ((c.committed.quizzes.map QuizRow.told).map fun record =>
        .ofRecord record (c₁.working.questionsBelow record.id)) := by
    refine reads_collect (g := fun t (record : QuizRecord) =>
      Quiz.ofRecord record (t.questionsBelow record.id)) ?_
    intro record hm c₂ hw₂
    obtain ⟨r, hr, rfl⟩ := List.mem_map.mp hm
    exact reads_loadQuiz (hw₂ ▸ hw ▸ hc) (hc.quizzes_fit r hr)
  rwa [hw, List.map_map] at hload

theorem getQuiz_row (hc : c.committed.Sound) {r : QuizRow} (hr : r ∈ c.committed.quizzes) :
    (getQuiz .quiet r.id c).1 = .ok (r.quiz c.committed) :=
  getQuiz_of_row hc (hc.quizzes.rowAt_of_mem hr) (hc.record hr) rfl

/-- Getting a stored question gives what its row and the rows below stand for. -/
theorem getQuestion_row (hc : c.committed.Sound) {r : QuestionRow}
    (hr : r ∈ c.committed.questions) :
    (getQuestion .quiet r.id c).1 = .ok (r.question c.committed) := by
  have hfit := hc.questions_fit r hr
  have hq : c.refresh.working.question? r.id = .ok (some r) := by
    rw [Tables.question?_ok hfit]
    exact congrArg Except.ok ((Tables.mem_questions hc).mp hr)
  refine Reads.reading (Reads.wrapping ((reads_query hq).bind fun c₁ hw => ?_))
  have hl : Reads (loadQuestion .quiet r) c₁ (r.question c₁.working) := reads_loadQuestion hfit
  rwa [hw] at hl

/-! ## What is not stored -/

/-- A failure of the reading itself passes. -/
theorem reading_store {α : Type} {a : Attempt Connection α} {m : Connection → String}
    {e : StoreError} {c' : Connection} (h : a c.refresh = (.error (.store e), c')) :
    (Connection.reading (a.wrapping m) c).1 = .error (.store e) := by
  simp only [Connection.reading, Attempt.wrapping, Attempt.mapFailure, h]

theorem getQuiz_none (hi : fits i = true) (hn : c.committed.quizAt i = none) :
    (getQuiz .quiet i c).1 = .error (.store (.quizNotFound i)) := by
  have hq : c.refresh.working.quiz? i = .ok none := by
    refine Except.bind_eq_ok.mpr ⟨(), Tables.checkFit_singleton hi, ?_⟩
    have hf : c.refresh.working.quizzes.find? (·.id == i) = none := hn
    rw [hf]
    rfl
  exact reading_store (bind_of_ok (Connection.query_quiet hq))

theorem getQuestion_none (hi : fits i = true) (hn : c.committed.questionAt i = none) :
    (getQuestion .quiet i c).1 = .error (.store (.questionNotFound i)) := by
  have hq : c.refresh.working.question? i = .ok none :=
    (Tables.question?_ok hi).trans (congrArg Except.ok hn)
  exact reading_store (bind_of_ok (Connection.query_quiet hq))

/-- Exactly the quizzes that are not stored are not found. -/
theorem getQuiz_notFound_iff (hc : c.committed.Sound) (hi : fits i = true) :
    (getQuiz .quiet i c).1 = .error (.store (.quizNotFound i)) ↔
      ∀ r ∈ c.committed.quizzes, r.id ≠ i := by
  constructor
  · rintro h r hr rfl
    rw [getQuiz_row hc hr] at h
    cases h
  · intro h
    exact getQuiz_none hi (rowAt_eq_none.mpr h)

/-- Exactly the questions that are not stored are not found. -/
theorem getQuestion_notFound_iff (hc : c.committed.Sound) (hi : fits i = true) :
    (getQuestion .quiet i c).1 = .error (.store (.questionNotFound i)) ↔
      ∀ r ∈ c.committed.questions, r.id ≠ i := by
  constructor
  · rintro h r hr rfl
    rw [getQuestion_row hc hr] at h
    cases h
  · intro h
    exact getQuestion_none hi (rowAt_eq_none.mpr h)

/-! ## The listing -/

/-- A list of quizzes is what listing the store gives, holds every row of the store, and agrees with
what getting one quiz or one question gives. -/
structure Lists (c : Connection) (vs : List Quiz) : Prop where
  listed : (listQuizzes .quiet c).1 = .ok vs
  quizzes : vs = c.committed.quizzes.map (QuizRow.quiz c.committed)
  /-- Every stored question is in one place of the listing, -/
  questions : (vs.flatMap (·.questions)).Perm
    (c.committed.questions.map (QuestionRow.question c.committed))
  /-- and so is every stored choice. -/
  choices : ((vs.flatMap (·.questions)).flatMap (·.choices)).Perm
    (c.committed.choices.map ChoiceRow.choice)
  once : ((vs.flatMap (·.questions)).map (·.id)).Nodup ∧
    (((vs.flatMap (·.questions)).flatMap (·.choices)).map (·.id)).Nodup
  parents : ∀ v ∈ vs, ∀ q ∈ v.questions, q.quizId = v.id ∧ ∀ x ∈ q.choices, x.questionId = q.id
  quiz_ids : (vs.map (·.id)).Pairwise (· < ·)
  question_ids : ∀ v ∈ vs, (v.questions.map (·.id)).Pairwise (· < ·)
  choice_ids : ∀ v ∈ vs, ∀ q ∈ v.questions, (q.choices.map (·.id)).Pairwise (· < ·)
  getQuiz : ∀ v ∈ vs, (getQuiz .quiet v.id c).1 = .ok v
  getQuestion : ∀ v ∈ vs, ∀ q ∈ v.questions, (getQuestion .quiet q.id c).1 = .ok q
  quizNotFound : ∀ i, fits i = true →
    ((Store.getQuiz .quiet i c).1 = .error (.store (.quizNotFound i)) ↔
      ∀ r ∈ c.committed.quizzes, r.id ≠ i)
  questionNotFound : ∀ i, fits i = true →
    ((Store.getQuestion .quiet i c).1 = .error (.store (.questionNotFound i)) ↔
      ∀ r ∈ c.committed.questions, r.id ≠ i)

/-- What is below the listed quizzes is what is stored. -/
theorem perm_questions (ht : t.Sound) :
    ((t.quizzes.map (QuizRow.quiz t)).flatMap (·.questions)).Perm
      (t.questions.map (QuestionRow.question t)) := by
  have hp := Tables.perm_questionsBelow ht
  rwa [List.flatMap_map] at hp ⊢

theorem perm_choices (ht : t.Sound) :
    (((t.quizzes.map (QuizRow.quiz t)).flatMap (·.questions)).flatMap (·.choices)).Perm
      (t.choices.map ChoiceRow.choice) := by
  refine ((perm_questions ht).flatMap_right _).trans ?_
  have hp := Tables.perm_choicesBelow ht
  rwa [List.flatMap_map] at hp ⊢

theorem question_ids_nodup (ht : t.Sound) :
    (((t.quizzes.map (QuizRow.quiz t)).flatMap (·.questions)).map (·.id)).Nodup := by
  have hp := (perm_questions ht).map Question.id
  rw [List.map_map] at hp
  exact hp.nodup_iff.mpr ht.questions.nodup

theorem choice_ids_nodup (ht : t.Sound) :
    ((((t.quizzes.map (QuizRow.quiz t)).flatMap (·.questions)).flatMap (·.choices)).map
      (·.id)).Nodup := by
  have hp := (perm_choices ht).map Choice.id
  rw [List.map_map] at hp
  exact hp.nodup_iff.mpr ht.choices.nodup

/-- Listing succeeds in every store that can be reached, and loses, doubles or misplaces no row. -/
theorem listQuizzes_lists (ht : Reachable c.committed) : ∃ vs, Lists c vs := by
  have hc := ht.sound
  have hquiz : ∀ v ∈ c.committed.quizzes.map (QuizRow.quiz c.committed),
      ∃ r ∈ c.committed.quizzes, v = r.quiz c.committed := by
    intro v hv
    obtain ⟨r, hr, rfl⟩ := List.mem_map.mp hv
    exact ⟨r, hr, rfl⟩
  refine ⟨_,
    { listed := listQuizzes_ok hc, quizzes := rfl
      questions := perm_questions hc, choices := perm_choices hc
      once := ⟨?_, ?_⟩
      parents := fun v hv q hq => ?_, quiz_ids := ?_
      question_ids := fun v hv => ?_, choice_ids := fun v hv q hq => ?_
      getQuiz := fun v hv => ?_, getQuestion := fun v hv q hq => ?_
      quizNotFound := fun i hi => getQuiz_notFound_iff hc hi
      questionNotFound := fun i hi => getQuestion_notFound_iff hc hi }⟩
  · exact question_ids_nodup hc
  · exact choice_ids_nodup hc
  · obtain ⟨r, _, rfl⟩ := hquiz v hv
    refine ⟨Tables.quizId_of_below hq, fun x hx => ?_⟩
    rw [Tables.choices_of_below hq] at hx
    exact Tables.questionId_of_below hx
  · rw [List.map_map]
    exact List.pairwise_map.mpr hc.quizzes
  · obtain ⟨r, _, rfl⟩ := hquiz v hv
    exact Tables.ascending_questionsBelow hc r.id
  · obtain ⟨r, _, rfl⟩ := hquiz v hv
    rw [Tables.choices_of_below hq]
    exact Tables.ascending_choicesBelow hc q.id
  · obtain ⟨r, hr, rfl⟩ := hquiz v hv
    exact getQuiz_row hc hr
  · obtain ⟨r, _, rfl⟩ := hquiz v hv
    obtain ⟨s, hs, rfl⟩ := List.mem_map.mp hq
    exact getQuestion_row hc (List.mem_filter.mp hs).1

theorem listQuizzes_lists_demo : ∃ vs, Lists (.onto .demo) vs ∧
    (vs.flatMap (·.questions)).length = 3 ∧
    (Store.getQuiz .quiet 3 (.onto .demo)).1 = .error (.store (.quizNotFound 3)) := by
  obtain ⟨vs, h⟩ := listQuizzes_lists (c := .onto .demo) reachable_demo
  refine ⟨vs, h, ?_, (h.quizNotFound 3 rfl).mpr (by decide +kernel)⟩
  rw [h.questions.length_eq, List.length_map]
  decide +kernel

end Store

end TriviaStore
