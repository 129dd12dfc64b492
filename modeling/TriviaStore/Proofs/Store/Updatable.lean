import TriviaStore.Proofs.Store.Creatable
import TriviaStore.Proofs.Store.Distinct

/-! # What can be updated

Undisturbed, a quiz whose ids are those of rows in their places is updated exactly if the quiz is
stored, no other quiz has its slug, and nothing is missing that its rows need. What a row needs
depends on whether it is inserted or overwritten. What the same call has inserted or deleted before
never stands in the way.
-/

namespace TriviaStore

open Attempt

variable {cond : Conditions} {clock : Instant} {c c' : Connection} {t t' : Tables} {v v' : Quiz}

namespace Quiz

/-- Every id in a quiz is that of a row in its place, and no two questions have one id. -/
structure Addressed (t : Tables) (v : Quiz) : Prop where
  questions : ∀ q ∈ v.questions, q.id ≠ 0 → ∃ r ∈ t.questions, r.id = q.id ∧ r.quizId = v.id
  distinct : v.questions.Pairwise fun a b => b.id ≠ 0 → a.id ≠ b.id
  choices : ∀ q ∈ v.questions, q.id ≠ 0 → ∀ x ∈ q.choices, x.id ≠ 0 →
    ∃ r ∈ t.choices, r.id = x.id ∧ r.questionId = q.id

/-- The quiz is stored, nothing is missing that its rows need, and no other stored quiz has its
slug. -/
structure Updatable (t : Tables) (v : Quiz) : Prop where
  stored : ∃ r ∈ t.quizzes, r.id = v.id
  title : v.title.isSome = true
  slug : ∃ slug, v.slug = some slug ∧ ∀ r ∈ t.quizzes, r.id ≠ v.id → r.slug ≠ slug
  description : v.description.isSome = true
  questions : ∀ q ∈ v.questions, q.Admissible

theorem Addressed.storedUnder (h : v.Addressed t) (ht : t.Sound) {q : Question}
    (hq : q ∈ v.questions) (hid : q.id ≠ 0) : q.StoredUnder t v.id := by
  obtain ⟨r, hr, hrid, ho⟩ := h.questions q hq hid
  refine ⟨⟨r, ?_⟩, fun x hx hx₀ => ?_⟩
  · rw [Tables.questionUnder, ← hrid, (Tables.mem_questions ht).mp hr]
    simp [ho]
  · obtain ⟨s, hs, hsid, ho⟩ := h.choices q hq hid x hx hx₀
    rw [← hsid, ← ho]
    exact ⟨s, (Tables.mem_choices ht).mp hs⟩

end Quiz

namespace Store

/-- What reconciling the questions takes once the quiz's row is overwritten. -/
theorem ready_overwritten {k : Nat} (c₁ : Connection) (hs : t.Sound) (hk : k ≠ 0)
    (hv : v.Addressed t) (hquestions : ∀ q ∈ v.questions, q.Admissible)
    (hu : t.updateQuiz v.id v.title v.slug v.description = .ok (k, c₁.working))
    (hroom : t.HasRoom 0 (v.questions.countP (·.id == 0)) (Question.newChoices v.questions)) :
    Question.Ready c₁.working v.id 0 0 v.questions c₁ := by
  obtain ⟨_, _, _, _, _, _, _, hqs, hxs, _, hat⟩ := Tables.updateQuiz_at hs hk hu
  have hrow := hat v.id
  rw [if_pos rfl] at hrow
  refine
    { sound := hs.updateQuiz hu, quizzes := rfl, parent := ⟨_, mem_of_rowAt hrow, rfl⟩
      admissible := hquestions, distinct := hv.distinct, stored := fun q hq hid => ?_
      questions := by rw [hqs]; exact hroom.questions
      choices := by rw [hxs]; exact hroom.choices }
  have hstored := hv.storedUnder hs hq hid
  constructor
  · rw [Tables.questionUnder, Tables.questionAt, hqs]
    exact hstored.row
  · intro x hx hx₀
    rw [Tables.choiceUnder, Tables.choiceAt, hxs]
    exact hstored.choices x hx hx₀

theorem overwrite_ok (hs : t.Sound) (hv : v.Updatable t) :
    ∃ t', t.updateQuiz v.id v.title v.slug v.description = .ok (1, t') := by
  obtain ⟨⟨r, hr, hid⟩, htitle, ⟨slug, hslug, hfree⟩, hdescription, _⟩ := hv
  obtain ⟨title, htitle⟩ := Option.isSome_iff_exists.mp htitle
  obtain ⟨description, hdescription⟩ := Option.isSome_iff_exists.mp hdescription
  exact ⟨_, Tables.updateQuiz_eq_ok.mpr ⟨hid ▸ hs.quizzes_fit r hr, .inr ⟨⟨r, hr, hid⟩, title, slug,
    description, htitle, hslug, hdescription, hfree, rfl, rfl⟩⟩⟩

theorem upsertQuiz_of_old (hs : c.working.Sound) (hid : v.id ≠ 0) (ha : v.Addressed c.working)
    (hv : v.Updatable c.working) (hroom : c.working.HasRoom 0
      (v.questions.countP (·.id == 0)) (Question.newChoices v.questions)) :
    ∃ y, upsertQuiz ⟨clock, .quiet⟩ (v, c) = (.ok (), y) := by
  obtain ⟨t, hu⟩ := overwrite_ok hs hv
  let c₁ : Connection := { c with working := t, issued := c.issued ++ [.update .quizzes] }
  have hoverwrite : overwriteQuiz ⟨clock, .quiet⟩ (v, c) = (.ok (), (v, c₁)) :=
    overwriteQuiz_eq_ok.mpr ⟨1, c₁, Nat.one_ne_zero, rfl, Connection.write_quiet hu⟩
  have hready : Question.Ready t v.id 0 0 v.questions c₁ :=
    ready_overwritten c₁ hs Nat.one_ne_zero ha hv.questions hu hroom
  obtain ⟨y, hreconcile⟩ := reconcileQuestions_ok clock hready
  unfold upsertQuiz
  rw [bind_of_ok (read_run _)]
  dsimp only
  rw [if_neg hid]
  exact ⟨y, bind_eq_ok.mpr ⟨(), _, hoverwrite, inContext_eq_ok.mpr hreconcile⟩⟩

theorem updateQuiz_of_updatable (hs : c.committed.Sound) (ha : v.Addressed c.committed)
    (hv : v.Updatable c.committed) (hroom : c.committed.HasRoom 0
      (v.questions.countP (·.id == 0)) (Question.newChoices v.questions)) :
    ∃ y, updateQuiz ⟨clock, .quiet⟩ (v, c) = (.ok (), y) := by
  have hid : v.id ≠ 0 := by
    obtain ⟨r, hr, hid⟩ := hv.stored
    exact hid ▸ Int.ne_of_gt (hs.quizzes_pos r hr)
  obtain ⟨y, hy⟩ := transacting_of_ok (c := c) (x := v) (upsertQuiz ⟨clock, .quiet⟩)
    fun c₁ hw => upsertQuiz_of_old (hw ▸ hs) hid (hw ▸ ha) (hw ▸ hv) (hw ▸ hroom)
  unfold updateQuiz
  rw [bind_of_ok (read_run _)]
  dsimp only
  rw [if_neg hid]
  exact ⟨_, bind_eq_ok.mpr ⟨(), y, hy, update_run _ _⟩⟩

theorem updatable_of_updateQuiz (hs : c.committed.Sound)
    (h : updateQuiz cond (v, c) = (.ok (), (v', c'))) : v.Updatable c.committed := by
  obtain ⟨_, k, c₁, c₂, ids, hk, hu, hr, _, _⟩ := updateQuiz_ok h
  have hall := (Question.view cond.plan c₁.working).forall_of_reconcile (P := Question.Admissible)
    (fun hinv hp => Question.admissible_of_place hinv.1 hp) ⟨hs.updateQuiz hu, rfl⟩ hr
  obtain ⟨_, ⟨_, rfl, _⟩ | ⟨hstored, title, slug, description, htitle, hslug, hdescription, hfree,
    _⟩⟩ := Tables.updateQuiz_eq_ok.mp hu
  · exact absurd rfl hk
  · exact ⟨hstored, by simp [htitle], ⟨slug, hslug, hfree⟩, by simp [hdescription], hall⟩

/-- What comes back from an update names the parents that it is stored under. -/
theorem parents_of_updateQuiz (hs : c.committed.Sound)
    (h : updateQuiz cond (v, c) = (.ok (), (v', c'))) :
    v'.id = v.id ∧ ∀ q ∈ v'.questions, q.quizId = v.id ∧ ∀ x ∈ q.choices, x.questionId = q.id := by
  obtain ⟨_, _, c₁, c₂, ids, _, hu, hr, hv, _⟩ := updateQuiz_ok h
  have hs₁ := hs.updateQuiz hu
  have hrec : Question.Reconciled cond.plan c₁.working v.id v.questions c₁ v'.questions c₂ :=
    (Question.view cond.plan c₁.working).reconcile ⟨hs₁, rfl⟩ hr
  refine ⟨by rw [hv], fun q' hq' => ?_⟩
  obtain ⟨_, _, hparent⟩ := hrec.row_of_mem hq'
  obtain ⟨k, q, hk', hk, _⟩ := exists_across hrec.length.symm hq'
  obtain ⟨_, _, _, hpl⟩ := Question.placement_of_reconcile hs₁ hr hk hk'
  refine ⟨hparent, fun x hx => ?_⟩
  obtain ⟨r, hrow, ho⟩ := hpl.below.stored x hx
  obtain ⟨_, _, _, _, rfl⟩ := Choice.row?_eq_some hrow
  exact ho

/-! ## Updates -/

/-- What exactly updating a quiz takes, and what comes back from it. -/
structure Updates (clock : Instant) (c : Connection) (v : Quiz) : Prop where
  accepted : (updateQuiz ⟨clock, .quiet⟩ (v, c)).1 = .ok () ↔ v.Updatable c.committed
  parents {v' : Quiz} {c' : Connection} : updateQuiz ⟨clock, .quiet⟩ (v, c) = (.ok (), (v', c')) →
    v'.id = v.id ∧ ∀ q ∈ v'.questions, q.quizId = v.id ∧ ∀ x ∈ q.choices, x.questionId = q.id

theorem updates (ht : Reachable c.committed) (ha : v.Addressed c.committed)
    (hroom : c.committed.HasRoom 0 (v.questions.countP (·.id == 0))
      (Question.newChoices v.questions)) : Updates clock c v where
  accepted := by
    rw [fst_eq_ok]
    constructor
    · rintro ⟨_, h⟩
      exact updatable_of_updateQuiz ht.sound h
    · exact fun hv => updateQuiz_of_updatable ht.sound ha hv hroom
  parents h := parents_of_updateQuiz ht.sound h

theorem updates_mixed : (updateQuiz .calm (.mixed, .onto .demo)).1 = .ok () ∧
    ∀ q ∈ (updateQuiz .calm (.mixed, .onto .demo)).2.1.questions,
      q.quizId = 1 ∧ ∀ x ∈ q.choices, x.questionId = q.id := by
  have h : Updates ⟨0⟩ (.onto .demo) .mixed := updates reachable_demo
    ⟨by decide +kernel, by decide, by decide +kernel⟩ (by decide +kernel)
  have hok := h.accepted.mpr
    ⟨by decide +kernel, rfl, ⟨_, rfl, by decide +kernel⟩, rfl, by decide⟩
  exact ⟨hok, (h.parents (Prod.ext hok rfl)).2⟩

end Store

end TriviaStore
