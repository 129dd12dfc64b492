import TriviaStore.Proofs.Attempt.Confirms
import TriviaStore.Proofs.Store.Create
import Mathlib.Data.List.Pairwise

/-! # Saving what is stored

A store holds an aggregate if the rows of the aggregate are stored, with nothing else below them.
Undisturbed, updating an aggregate with what is stored of it already overwrites every row with its
own values and deletes nothing, so that neither the store nor the aggregate changes.
-/

namespace TriviaStore

open Attempt

variable {c : Connection} {t : Tables} {p i : Int} {clock : Instant}

/-- The choice's row is stored, under a question. -/
structure Choice.HeldBy (t : Tables) (p : Int) (x : Choice) : Prop where
  parent : x.questionId = p
  row : ∃ r ∈ t.choices, x.row? = some r

/-- The question's row and those of its choices are stored, under a quiz, and no other choices. -/
structure Question.HeldBy (t : Tables) (p : Int) (q : Question) : Prop where
  parent : q.quizId = p
  row : ∃ r ∈ t.questions, q.row? = some r
  complete : q.text.isSome ∧ q.imageUrl.isSome
  choices : ∀ x ∈ q.choices, x.HeldBy t q.id
  all : ∀ r ∈ t.choices, r.questionId = q.id → ∃ x ∈ q.choices, x.id = r.id

/-- The quiz's texts and its questions are stored, and no other questions under it. -/
structure Quiz.HeldBy (t : Tables) (v : Quiz) : Prop where
  row : ∃ r ∈ t.quizzes, r.id = v.id ∧ v.title = some r.title ∧ v.slug = some r.slug ∧
    v.description = some r.description
  questions : ∀ q ∈ v.questions, q.HeldBy t v.id
  all : ∀ r ∈ t.questions, r.quizId = v.id → ∃ q ∈ v.questions, q.id = r.id

/-! ## Statements -/

/-- Overwriting rows with their own values changes nothing. -/
theorem map_overwrite_self {α : Type} {l : List α} {P : α → Prop} [DecidablePred P] {f : α → α}
    (h : ∀ r ∈ l, P r → f r = r) : (l.map fun r => if P r then f r else r) = l := by
  have hid : ∀ r ∈ l, (if P r then f r else r) = id r := by
    intro r hr
    split
    · exact h r hr ‹_›
    · rfl
  rw [List.map_congr_left hid, List.map_id]

namespace Tables

theorem updateChoice_held (ht : t.Sound) {x : Choice} (h : x.HeldBy t p) :
    t.updateChoice x.id (some p) x.text x.correct = .ok (1, t) := by
  obtain ⟨rfl, r, hr, hrow⟩ := h
  obtain ⟨text, correct, htext, hcorrect, rfl⟩ := Choice.row?_eq_some hrow
  obtain ⟨o, ho, hid⟩ := ht.choice_owner _ hr
  apply updateChoice_eq_ok.mpr
  refine ⟨?_, .inr ⟨⟨_, hr, meansChoice_iff.mpr ⟨rfl, by simp⟩⟩, text, correct, htext, hcorrect,
    rfl, ?_⟩⟩
  · have hfit := hid ▸ ht.questions_fit o ho
    simpa using ⟨ht.choices_fit _ hr, hfit⟩
  · rw [map_overwrite_self]
    intro r' hr' hm
    rw [ht.choices.eq_of_key hr' hr (meansChoice_iff.mp hm).1]

theorem updateQuestion_held (ht : t.Sound) {q : Question} (h : q.HeldBy t p) {parent : Option Int}
    (hp : ∀ i ∈ parent, i = p) :
    t.updateQuestion q.id parent q.text q.imageUrl q.position = .ok (1, t) := by
  obtain ⟨rfl, ⟨r, hr, hrow⟩, ⟨htext, himage⟩, _, _⟩ := h
  obtain ⟨position, hpos, rfl⟩ := Question.row?_eq_some hrow
  obtain ⟨text, htext⟩ := Option.isSome_iff_exists.mp htext
  obtain ⟨image, himage⟩ := Option.isSome_iff_exists.mp himage
  obtain ⟨o, ho, hid : o.id = q.quizId⟩ := ht.question_owner _ hr
  have hmeans : ∀ i ∈ parent, q.quizId = i := fun i hi => (hp i hi).symm
  apply updateQuestion_eq_ok.mpr
  refine ⟨?_, .inr ⟨⟨_, hr, meansQuestion_iff.mpr ⟨rfl, hmeans⟩⟩, text, image, position, htext,
    himage, hpos, rfl, ?_⟩⟩
  · intro x hx
    have hfit : fits q.quizId = true := hid ▸ ht.quizzes_fit o ho
    rw [hpos] at hx
    simp only [Option.toList_some, List.mem_append, List.mem_cons, List.not_mem_nil, or_false,
      Option.mem_toList] at hx
    rcases hx with rfl | rfl | hx
    · exact ht.positions_fit _ hr
    · exact ht.questions_fit _ hr
    · rw [hp x hx]
      exact hfit
  · rw [map_overwrite_self]
    intro r' hr' hm
    rw [ht.questions.eq_of_key hr' hr (meansQuestion_iff.mp hm).1, htext, himage]
    rfl

theorem updateQuiz_held (ht : t.Sound) {v : Quiz} (h : v.HeldBy t) :
    t.updateQuiz v.id v.title v.slug v.description = .ok (1, t) := by
  obtain ⟨r, hr, hid, htitle, hslug, hdesc⟩ := h.row
  have hsymm : Std.Symm fun a b : QuizRow => a.slug ≠ b.slug := ⟨fun _ _ => Ne.symm⟩
  apply updateQuiz_eq_ok.mpr
  refine ⟨hid ▸ ht.quizzes_fit r hr, .inr ⟨⟨r, hr, hid⟩, r.title, r.slug, r.description, htitle,
    hslug, hdesc, ?_, rfl, ?_⟩⟩
  · intro r' hr' hne hs
    have hrr : r' ≠ r := fun he => hne (he ▸ hid)
    exact ht.slugs.forall hr' hr hrr hs
  · rw [map_overwrite_self]
    intro r' hr' he
    rw [ht.quizzes.eq_of_key hr' hr (he.trans hid.symm)]

end Tables

namespace Connection

variable {α : Type}

theorem gives_query {table : Table} {read : Tables → Except Failure α} {x : α}
    (h : read t = .ok x) : (query .quiet table read).Gives (·.working = t) x := by
  rintro c rfl
  exact ⟨{ c with issued := c.issued ++ [.select table] }, by rw [← h]; rfl, rfl⟩

theorem gives_write {s : Statement} {change : Tables → Except Failure (Nat × Tables)} {n : Nat}
    (h : change t = .ok (n, t)) : (write .quiet s change).Gives (·.working = t) n := by
  rintro c rfl
  refine ⟨{ c with issued := c.issued ++ [s] }, ?_, rfl⟩
  have ha : apply change { c with issued := c.issued ++ [s] } =
      (.ok n, { c with issued := c.issued ++ [s] }) := by
    unfold Connection.apply
    rw [h]
  exact ha

end Connection

/-! ## Choices -/

namespace Choice

theorem id_ne_zero (ht : t.Sound) {x : Choice} (h : x.HeldBy t p) : x.id ≠ 0 := by
  obtain ⟨_, r, hr, hrow⟩ := h
  obtain ⟨_, _, _, _, rfl⟩ := row?_eq_some hrow
  exact Int.ne_of_gt (ht.choices_pos _ hr)

theorem gives_existing (hp : fits p = true) :
    ((reconciler .quiet).existing p).Gives (·.working = t)
      ((t.choices.filter (·.questionId == p)).map (·.id)) := by
  rintro c rfl
  exact ⟨_, existing_quiet hp, rfl⟩

theorem confirms_place (ht : t.Sound) {x : Choice} (h : x.HeldBy t p) :
    ((reconciler .quiet).place p).Confirms (·.working = t) x () := by
  refine Reconciler.confirms_place ?_ (Reconciler.confirms_upsert (id_ne_zero ht h) Nat.one_ne_zero
    ?_ (fun _ _ hs => hs) (confirms_pure ()))
  · obtain ⟨rfl, _⟩ := h
    rfl
  · intro c hc
    obtain ⟨c', hw, hc'⟩ := Connection.gives_write (Tables.updateChoice_held ht h) c hc
    exact ⟨c', update_eq_ok.mpr ⟨c', hw, rfl⟩, hc'⟩

end Choice

/-! ## Questions -/

namespace Question

variable {q : Question}

theorem fits_of_held (ht : t.Sound) (h : q.HeldBy t p) : q.id ≠ 0 ∧ fits q.id = true := by
  obtain ⟨r, hr, hrow⟩ := h.row
  obtain ⟨_, _, rfl⟩ := row?_eq_some hrow
  exact ⟨Int.ne_of_gt (ht.questions_pos _ hr), ht.questions_fit _ hr⟩

theorem confirms_reconcileChoices (ht : t.Sound) (h : q.HeldBy t p) :
    (reconcileChoices .quiet).Confirms (·.working = t) q () := by
  have hids := Choice.gives_existing (t := t) (fits_of_held ht h).2
  have hrec : ((Choice.reconciler .quiet).reconcile q.id).Confirms (·.working = t) q.choices [] := by
    refine Reconciler.confirms_reconcile hids
      (fun x hx => Choice.confirms_place ht (h.choices x hx)) fun i hi => ?_
    obtain ⟨r, hr, rfl⟩ := List.mem_map.mp hi
    obtain ⟨hr, hq⟩ := List.mem_filter.mp hr
    exact Reconciler.mem_kept.mpr
      ⟨Int.ne_of_gt (ht.choices_pos r hr), h.all r hr (of_decide_eq_true hq)⟩
  intro c hc
  obtain ⟨c', hr, hc'⟩ := hrec c hc
  exact ⟨c', reconcileChoices_eq_ok.mpr ⟨[], q.choices, c', hr, rfl⟩, hc'⟩

theorem confirms_place (ht : t.Sound) (h : q.HeldBy t p) :
    ((reconciler .quiet).place p).Confirms (·.working = t) q () := by
  refine Reconciler.confirms_place ?_ (Reconciler.confirms_upsert (fits_of_held ht h).1
    Nat.one_ne_zero ?_ (fun _ _ hs => hs) (confirms_reconcileChoices ht h))
  · obtain ⟨rfl, _⟩ := h
    rfl
  · intro c hc
    have hu := Tables.updateQuestion_held ht h fun i hi => (Option.some.inj hi).symm
    obtain ⟨c', hw, hc'⟩ := Connection.gives_write hu c hc
    exact ⟨c', update_eq_ok.mpr ⟨c', hw, rfl⟩, hc'⟩

/-- The owner that is looked up is the quiz that the question already points at. -/
theorem confirms_findOwner (ht : t.Sound) (h : q.HeldBy t p) :
    (findOwner .quiet).Confirms (·.working = t) q () := by
  obtain ⟨r, hr, hrow⟩ := h.row
  obtain ⟨_, _, rfl⟩ := row?_eq_some hrow
  have hq : t.question? q.id = .ok (some _) :=
    (Tables.question?_ok (fits_of_held ht h).2).trans
      (congrArg Except.ok ((Tables.mem_questions ht).mp hr))
  intro c hc
  obtain ⟨c', hq, hc'⟩ := Connection.gives_query hq c hc
  exact ⟨c', findOwner_eq_ok.mpr ⟨_, c', hq, rfl⟩, hc'⟩

theorem confirms_upsert (ht : t.Sound) (h : q.HeldBy t p) :
    ((reconciler .quiet).upsert none).Confirms (·.working = t) q () := by
  refine Reconciler.confirms_upsert (fits_of_held ht h).1 Nat.one_ne_zero ?_ (fun _ _ hs => hs)
    (confirms_reconcileChoices ht h)
  refine Confirms.read_bind fun c => ?_
  have hu : t.updateQuestion q.id none q.text q.imageUrl q.position = .ok (1, t) :=
    Tables.updateQuestion_held ht h nofun
  refine (Connection.gives_write hu).onSecond.bind ?_
  rw [if_pos ⟨Nat.one_ne_zero, rfl⟩]
  exact (confirms_findOwner ht h).bind (confirms_pure 1)

theorem gives_existing (hp : fits p = true) :
    ((reconciler .quiet).existing p).Gives (·.working = t)
      ((t.questions.filter (·.quizId == p)).map (·.id)) := by
  rintro c rfl
  exact ⟨_, existing_quiet hp, rfl⟩

end Question

/-! ## Writes -/

namespace Store

variable {v : Quiz} {q : Question}

theorem fits_of_held (ht : t.Sound) (h : v.HeldBy t) : v.id ≠ 0 ∧ fits v.id = true := by
  obtain ⟨r, hr, hid, _⟩ := h.row
  exact ⟨hid ▸ Int.ne_of_gt (ht.quizzes_pos r hr), hid ▸ ht.quizzes_fit r hr⟩

theorem confirms_overwriteQuiz (ht : t.Sound) (h : v.HeldBy t) :
    (overwriteQuiz ⟨clock, .quiet⟩).Confirms (·.working = t) v () := by
  intro c hc
  obtain ⟨c', hw, hc'⟩ := Connection.gives_write (Tables.updateQuiz_held ht h) c hc
  exact ⟨c', overwriteQuiz_eq_ok.mpr ⟨1, c', Nat.one_ne_zero, rfl, hw⟩, hc'⟩

theorem confirms_reconcileQuestions (ht : t.Sound) (h : v.HeldBy t) :
    (reconcileQuestions ⟨clock, .quiet⟩).Confirms (·.working = t) v () := by
  have hids := Question.gives_existing (t := t) (fits_of_held ht h).2
  have hrec : ((Question.reconciler .quiet).reconcile v.id).Confirms (·.working = t)
      v.questions [] := by
    refine Reconciler.confirms_reconcile hids
      (fun q hq => Question.confirms_place ht (h.questions q hq)) fun i hi => ?_
    obtain ⟨r, hr, rfl⟩ := List.mem_map.mp hi
    obtain ⟨hr, hv⟩ := List.mem_filter.mp hr
    exact Reconciler.mem_kept.mpr
      ⟨Int.ne_of_gt (ht.questions_pos r hr), h.all r hr (of_decide_eq_true hv)⟩
  intro c hc
  obtain ⟨c', hr, hc'⟩ := hrec c hc
  exact ⟨c', reconcileQuestions_eq_ok.mpr ⟨[], v.questions, c', hr, rfl⟩, hc'⟩

theorem confirms_upsertQuiz (ht : t.Sound) (h : v.HeldBy t) :
    (upsertQuiz ⟨clock, .quiet⟩).Confirms (·.working = t) v () := by
  refine Confirms.read_bind fun c => ?_
  dsimp only
  rw [if_neg (fits_of_held ht h).1]
  exact (confirms_overwriteQuiz ht h).bind (confirms_reconcileQuestions ht h).inContext

/-- An undisturbed transaction commits the tables that its work leaves. -/
theorem confirms_transacting {τ : Type} {work : Attempt (τ × Connection) Unit} {x : τ}
    (hw : work.Confirms (·.working = t) x ()) :
    (transacting .quiet work).Confirms (·.committed = t) x () := by
  rintro c rfl
  obtain ⟨⟨x', c'⟩, h⟩ := transacting_of_ok work fun c₁ hc₁ =>
    (hw c₁ hc₁).elim fun c₂ h => ⟨(x, c₂), h.1⟩
  obtain ⟨c₁, c₂, hbegin, hwork, hcommit⟩ := transacting_ok h
  obtain ⟨c₃, hw, hc₃⟩ := hw c₁ (Connection.begin_ok hbegin)
  cases hw.symm.trans hwork
  exact ⟨c', h, hcommit.trans hc₃⟩

theorem confirms_announce {τ : Type} {event : τ → Event} {x : τ} :
    (announce event).Confirms (·.committed = t) x () :=
  fun c hc => ⟨c.note (event x), rfl, hc⟩

/-- Updating a quiz that is held changes neither the quiz nor the store. -/
theorem confirms_updateQuiz (ht : t.Sound) (h : v.HeldBy t) (clock : Instant) :
    (updateQuiz ⟨clock, .quiet⟩).Confirms (·.committed = t) v () := by
  refine Confirms.read_bind fun c => ?_
  dsimp only
  rw [if_neg (fits_of_held ht h).1]
  exact (confirms_transacting (confirms_upsertQuiz ht h)).bind confirms_announce

/-- Updating a question that is held changes neither the question nor the store. -/
theorem confirms_updateQuestion (ht : t.Sound) (h : q.HeldBy t p) (clock : Instant) :
    (updateQuestion ⟨clock, .quiet⟩).Confirms (·.committed = t) q () := by
  refine Confirms.read_bind fun c => ?_
  dsimp only
  rw [if_neg (Question.fits_of_held ht h).1]
  exact (confirms_transacting (Question.confirms_upsert ht h)).bind confirms_announce

end Store

end TriviaStore
