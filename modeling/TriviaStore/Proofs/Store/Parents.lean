import TriviaStore.Proofs.Store.Frame
import TriviaStore.Proofs.Store.Ownership

/-! # Whose children rows are

No write moves a row to another parent. An id that is stored before a write and after it is under the
same parent, with one exception: an update that deletes choices below one question and inserts others
below a later one can give out an id again, since a new id is only above those that are stored then.
-/

namespace TriviaStore

open Attempt

variable {cond : Conditions} {plan : Plan Statement} {c c' : Connection} {t t' : Tables} {p j : Int}

/-- Placing a question inserts a choice below it, which is given an id. -/
def Question.Inserts (q q' : Question) (i : Int) : Prop :=
  ∃ (n : Nat) (x x' : Choice), q.choices[n]? = some x ∧ q'.choices[n]? = some x' ∧
    (q.id = 0 ∨ x.id = 0) ∧ x'.id = i

/-- The question ends up with an id, and without the choice that has another. -/
def Question.Lacks (q' : Question) (p i : Int) : Prop := q'.id = p ∧ ∀ x' ∈ q'.choices, x'.id ≠ i

/-! ## One question -/

namespace Question.Placement

variable {q q' : Question} {c₁ : Connection} (h : Placement plan p q c q' c₁ c')

include h

theorem none_of_inserts (hs : c.working.Sound) (hi : q.Inserts q' j) :
    c.working.choiceAt j = none := by
  obtain ⟨n, x, x', hx, hx', hins, rfl⟩ := hi
  refine Option.eq_none_iff_forall_not_mem.mpr fun r hr => ?_
  have hlt := h.choice_fresh hx hx' hins (mem_of_rowAt hr) hs
  rw [key_of_rowAt hr] at hlt
  exact Int.lt_irrefl _ hlt

/-- A choice that is stored after placing a question was stored there before, or was inserted. -/
theorem choice_origin {r' : ChoiceRow} (hr' : c'.working.choiceAt j = some r') :
    (∃ r, c.working.choiceAt j = some r ∧ r.questionId = r'.questionId) ∨
      q'.id = r'.questionId ∧ q.Inserts q' j := by
  have hu : c'.working.choiceUnder r'.questionId j = some r' :=
    Option.filter_eq_some_iff.mpr ⟨hr', by simp⟩
  rw [h.choiceUnder] at hu
  split at hu
  · rename_i hid
    obtain ⟨x', hlast, _⟩ := Option.bind_eq_some_iff.mp hu
    obtain ⟨hmem, rfl⟩ := mem_of_lastWith hlast
    obtain ⟨n, x, hx', hx, _⟩ := exists_across (h.below.length.trans q.length_desired).symm hmem
    by_cases hins : q.id = 0 ∨ x.id = 0
    · exact .inr ⟨hid.symm, n, x, x', hx, hx', hins, rfl⟩
    obtain ⟨hq, hx₀⟩ := not_or.mp hins
    have hkept : x'.id = x.id := h.below.kept n x x' (desired_old hq ▸ hx) hx' hx₀
    rcases h.choice_owned hq hx hx₀ with ⟨r, hr⟩ | ⟨m, _, y, y', hy, hy', h₀, he⟩
    · obtain ⟨hr, ho⟩ := Option.filter_eq_some_iff.mp hr
      refine .inl ⟨r, hkept ▸ hr, ?_⟩
      rw [hid, (h.owned hq).1]
      simpa using ho
    · exact .inr ⟨hid.symm, m, y, y', hy, hy', .inr h₀, he.trans hkept.symm⟩
  · obtain ⟨hr, _⟩ := Option.filter_eq_some_iff.mp hu
    exact .inl ⟨r', hr, rfl⟩

/-- A choice stays where it is stored while a question is placed, or is deleted below it. -/
theorem choice_fate {r : ChoiceRow} (hr : c.working.choiceAt j = some r) :
    (∃ r', c'.working.choiceAt j = some r' ∧ r'.questionId = r.questionId) ∨
      q'.Lacks r.questionId j := by
  have hu := h.choiceUnder r.questionId j
  split at hu
  · rename_i hid
    cases hl : lastWith (·.id) j q'.choices with
    | none => exact .inr ⟨hid.symm, lastWith_eq_none.mp hl⟩
    | some x' =>
      obtain ⟨r', hr', _⟩ := h.below.stored x' (mem_of_lastWith hl).1
      have hr' : x'.row? = some r' := hr'
      rw [hl, Option.bind_some, hr'] at hu
      obtain ⟨hu, ho⟩ := Option.filter_eq_some_iff.mp hu
      exact .inl ⟨r', hu, by simpa using ho⟩
  · have hold : c.working.choiceUnder r.questionId j = some r :=
      Option.filter_eq_some_iff.mpr ⟨hr, by simp⟩
    rw [hold] at hu
    exact .inl ⟨r, (Option.filter_eq_some_iff.mp hu).1, rfl⟩

end Question.Placement

/-! ## All questions -/

/-- A choice that is stored after questions were placed was under the same question before, or was
inserted on the way; then the choice that had its id before was deleted below an earlier question. -/
theorem Question.eachOf_choice_origin {qs qs' : List Question} (hs : c.working.Sound)
    (h : eachOf ((reconciler plan).place p) qs c = (.ok (), (qs', c'))) {r' : ChoiceRow}
    (hr' : c'.working.choiceAt j = some r') :
    (∃ r, c.working.choiceAt j = some r ∧ r.questionId = r'.questionId) ∨
      ∃ (m : Nat) (q q' : Question), qs[m]? = some q ∧ qs'[m]? = some q' ∧
        q'.id = r'.questionId ∧ q.Inserts q' j ∧ ∀ r, c.working.choiceAt j = some r →
          ∃ k < m, ∃ d' : Question, qs'[k]? = some d' ∧ d'.Lacks r.questionId j := by
  induction qs generalizing c qs' with
  | nil =>
    cases h
    exact .inl ⟨r', hr', rfl⟩
  | cons q qs ih =>
    obtain ⟨q', c₁, qs₁, hp, hrest, rfl⟩ := eachOf_cons_eq_ok.mp h
    obtain ⟨_, hpl⟩ := place_ok hs hp
    rcases ih hpl.below.inv.sound hrest with ⟨r₁, hr₁, ho⟩ | ⟨m, d, d', hd, hd', hid, hins, hgone⟩
    · rcases hpl.choice_origin hr₁ with ⟨r, hr, ho'⟩ | ⟨hid, hins⟩
      · exact .inl ⟨r, hr, ho'.trans ho⟩
      · refine .inr ⟨0, q, q', rfl, rfl, hid.trans ho, hins, fun r hr => ?_⟩
        rw [hpl.none_of_inserts hs hins] at hr
        cases hr
    · refine .inr ⟨m + 1, d, d', hd, hd', hid, hins, fun r hr => ?_⟩
      rcases hpl.choice_fate hr with ⟨r₁, hr₁, ho⟩ | hlacks
      · obtain ⟨k, hk, e, he, hlacks⟩ := hgone r₁ hr₁
        exact ⟨k + 1, Nat.succ_lt_succ hk, e, he, ho ▸ hlacks⟩
      · exact ⟨0, Nat.succ_pos m, q', rfl, hlacks⟩

/-- Discarding questions leaves no choice that was not there. -/
theorem Question.choiceAt_of_discard {ids : List Int} (hs : c.working.Sound)
    (h : forAll ((reconciler plan).discard p) ids c = (.ok (), c')) {r : ChoiceRow}
    (hr : c'.working.choiceAt j = some r) : c.working.choiceAt j = some r := by
  obtain ⟨hs', hrows⟩ := (view plan c.working).forAll_discard ⟨hs, rfl⟩ h
  obtain ⟨o, ho, hid⟩ := hs'.1.choice_owner r (mem_of_rowAt hr)
  have hat := hrows o.id
  rw [show (view plan c.working).rows c' o.id = c'.working.storedQuestion o.id from rfl,
    Tables.storedQuestion, (Tables.mem_questions hs'.1).mp ho, Option.map_some] at hat
  split at hat
  · cases hat
  obtain ⟨_, _, he⟩ := Option.map_eq_some_iff.mp hat.symm
  injection he with _ hbelow
  have hu : c'.working.choiceUnder o.id j = some r :=
    Option.filter_eq_some_iff.mpr ⟨hr, by simp [hid]⟩
  rw [← hbelow] at hu
  exact (Option.filter_eq_some_iff.mp hu).1

/-! ## Writes -/

/-- A question that is stored in both is under the same quiz in both. -/
def Tables.SameQuizzes (t t' : Tables) : Prop :=
  ∀ r ∈ t.questions, ∀ r' ∈ t'.questions, r'.id = r.id → r'.quizId = r.quizId

/-- A choice that is stored in both is under the same question in both. -/
def Tables.SameQuestions (t t' : Tables) : Prop :=
  ∀ r ∈ t.choices, ∀ r' ∈ t'.choices, r'.id = r.id → r'.questionId = r.questionId

/-- An update has deleted a choice below one question of its list and has given the id to a choice
that it inserted below a later one. -/
def Quiz.GivesAgain (v v' : Quiz) (r r' : ChoiceRow) : Prop :=
  ∃ (k m : Nat) (d' q q' : Question), k < m ∧
    v'.questions[k]? = some d' ∧ d'.Lacks r.questionId r.id ∧
    v.questions[m]? = some q ∧ v'.questions[m]? = some q' ∧ q'.id = r'.questionId ∧
    q.Inserts q' r'.id

theorem Tables.ExtendedTo.sameQuizzes (h : t.ExtendedTo t') (ht' : t'.Sound) : t.SameQuizzes t' := by
  intro r hr r' hr' hid
  rw [ht'.questions.eq_of_key hr' (h.questions.subset hr) hid]

theorem Tables.ExtendedTo.sameQuestions (h : t.ExtendedTo t') (ht' : t'.Sound) :
    t.SameQuestions t' := by
  intro r hr r' hr' hid
  rw [ht'.choices.eq_of_key hr' (h.choices.subset hr) hid]

/-- Changes within one quiz leave every question under its quiz. -/
theorem Aggregate.ChangedWithin.sameQuizzes {i : Int} (h : (quiz i).ChangedWithin t t')
    (ht : t.Sound) (ht' : t'.Sound) : t.SameQuizzes t' := by
  intro r hr r' hr' hid
  by_cases hi : r.quizId = i
  · by_cases hi' : r'.quizId = i
    · rw [hi, hi']
    · rw [ht.questions.eq_of_key (h.new.questions r' hr' hi') hr hid]
  · rw [ht'.questions.eq_of_key hr' (h.kept.questions r hr hi) hid]

/-- Choices that were placed below one question were below it, or are new. -/
theorem Aggregate.ChangedWithin.sameQuestions {i : Int} (h : (question i).ChangedWithin t t')
    (ht : t.Sound) (ht' : t'.Sound) : t.SameQuestions t' := by
  have helsewhere {t : Tables} (ht : t.Sound) {r : ChoiceRow} (hi : r.questionId ≠ i) :
      ¬ (question i).OwnsChoice t r := by
    rintro ⟨q, _, hid, ho⟩
    exact hi (hid.symm.trans ho)
  intro r hr r' hr' hid
  by_cases hi : r.questionId = i
  · by_cases hi' : r'.questionId = i
    · rw [hi, hi']
    · rw [ht.choices.eq_of_key (h.new.choices r' hr' (helsewhere ht' hi')) hr hid]
  · rw [ht'.choices.eq_of_key hr' (h.kept.choices r hr (helsewhere ht hi)) hid]

theorem Store.createQuiz_parents {v v' : Quiz} (hc : c.committed.Sound)
    (h : Store.createQuiz cond (v, c) = (.ok (), (v', c'))) :
    c.committed.SameQuizzes c'.committed ∧ c.committed.SameQuestions c'.committed := by
  have hext := (Store.createQuiz_changes hc h).1
  have hc' := Store.createQuiz_sound hc h
  exact ⟨hext.sameQuizzes hc', hext.sameQuestions hc'⟩

theorem Store.createQuestion_parents {q q' : Question} (hc : c.committed.Sound)
    (h : Store.createQuestion cond (q, c) = (.ok (), (q', c'))) :
    c.committed.SameQuizzes c'.committed ∧ c.committed.SameQuestions c'.committed := by
  have hext := (Store.createQuestion_changes hc h).1
  obtain ⟨c₁, c₂, hw, hp, hc'⟩ := Store.createQuestion_ok h
  obtain ⟨_, hpl⟩ := Question.place_ok (hw ▸ hc) hp
  have hc₂ := hpl.below.inv.sound
  rw [hc'] at hext ⊢
  exact ⟨hext.sameQuizzes hc₂, hext.sameQuestions hc₂⟩

theorem Store.updateQuiz_parents {v v' : Quiz} (hc : c.committed.Sound)
    (h : Store.updateQuiz cond (v, c) = (.ok (), (v', c'))) :
    c.committed.SameQuizzes c'.committed ∧ ∀ r ∈ c.committed.choices, ∀ r' ∈ c'.committed.choices,
      r'.id = r.id → r'.questionId = r.questionId ∨ v.GivesAgain v' r r' := by
  have hwithin := Store.updateQuiz_changes hc h
  obtain ⟨_, n, c₁, c₂, ids, hn, hu, hr, _, hc'⟩ := Store.updateQuiz_ok h
  obtain ⟨_, _, _, _, _, _, _, _, hxs, _, _⟩ := Tables.updateQuiz_at hc hn hu
  have hc₁ := hc.updateQuiz hu
  have hc₂ := ((Question.view cond.plan c₁.working).reconcile ⟨hc₁, rfl⟩ hr).inv.1
  obtain ⟨existing, c₃, c₄, he, hall, _, hd⟩ := Reconciler.reconcile_eq_ok.mp hr
  obtain ⟨-, -, hw₃⟩ := Question.existing_ok he
  have hc₃ : c₃.working.Sound := hw₃ ▸ hc₁
  have hc₄ := ((Question.view cond.plan c₃.working).eachOf_place ⟨hc₃, rfl⟩ hall).inv.1
  rw [hc'] at hwithin ⊢
  refine ⟨hwithin.sameQuizzes hc hc₂, fun r hr r' hr' hid => ?_⟩
  have hat : c₃.working.choiceAt r.id = some r := by
    rw [Tables.choiceAt, hw₃, hxs]
    exact hc.choices.rowAt_of_mem hr
  have hat' := Question.choiceAt_of_discard hc₄ hd (hc₂.choices.rowAt_of_mem hr')
  rw [hid] at hat'
  rcases Question.eachOf_choice_origin hc₃ hall hat' with
    ⟨r₁, hr₁, ho⟩ | ⟨m, q, q', hq, hq', hqid, hins, hgone⟩
  · rw [hat] at hr₁
    cases hr₁
    exact .inl ho.symm
  · obtain ⟨k, hk, d', hd', hlacks⟩ := hgone r hat
    exact .inr ⟨k, m, d', q, q', hk, hd', hlacks, hq, hq', hqid, hid ▸ hins⟩

theorem Store.updateQuestion_parents {q q' : Question} (hc : c.committed.Sound)
    (h : Store.updateQuestion cond (q, c) = (.ok (), (q', c'))) :
    c.committed.SameQuizzes c'.committed ∧ c.committed.SameQuestions c'.committed := by
  have hwithin := Store.updateQuestion_changes hc h
  obtain ⟨_, n, c₁, c₂, ids, _, hn, hu, _, hr, _, hc'⟩ := Store.updateQuestion_ok h
  have hrec := (Choice.view cond.plan c₁.working).reconcile
    (Question.around_self (hc.updateQuestion hu)) hr
  have hc₂ := hrec.inv.sound
  rw [hc'] at hwithin ⊢
  refine ⟨fun r hr r' hr' hid => ?_, hwithin.sameQuestions hc hc₂⟩
  rw [hrec.inv.questions] at hr'
  obtain ⟨_, ⟨_, rfl, _⟩ | ⟨_, _, _, _, _, _, _, _, ht⟩⟩ := Tables.updateQuestion_eq_ok.mp hu
  · exact absurd rfl hn
  rw [ht] at hr'
  obtain ⟨r₀, hr₀, rfl⟩ := List.mem_map.mp hr'
  have hid₀ : r₀.id = r.id := by
    rw [← hid]
    split <;> rfl
  obtain rfl := hc.questions.eq_of_key hr₀ hr hid₀
  split <;> rfl

/-! ## Seeding -/

/-- Sound rows, among them those of some tables. -/
def Tables.SoundlyExtendedTo (t t' : Tables) : Prop := t.ExtendedTo t' ∧ t'.Sound

/-- A creation commits only if it succeeds. -/
theorem Store.keeps_creating_of {K : Tables → Prop} {v : Quiz}
    (h : ∀ {c c' : Connection} {v' : Quiz}, K c.committed →
      Store.createQuiz cond (v, c) = (.ok (), (v', c')) → K c'.committed) :
    (Store.creating cond v).Keeps (Connection.Holds K fun _ => True) := by
  rintro c ⟨hc, _⟩
  dsimp only [Store.creating]
  split
  · rename_i hcreate
    exact ⟨h hc hcreate, trivial⟩
  · rename_i hcreate
    have hsame := Store.createQuiz_onFailure (T := c.committed) _ _ _ ⟨rfl, trivial⟩ hcreate
    exact ⟨hsame.committed ▸ hc, trivial⟩

/-- Seeding only adds rows, also when it stops halfway. -/
theorem Store.extends_seed :
    (Store.seed cond).Keeps (Connection.Holds t.SoundlyExtendedTo fun _ => True) :=
  Store.keeps_seed (fun _ _ => trivial) fun _ _ => Store.keeps_creating_of fun ⟨hext, hc⟩ h =>
    ⟨hext.trans (Store.createQuiz_changes hc h).1, Store.createQuiz_sound hc h⟩

theorem Store.seed_parents (hc : c.committed.Sound) :
    c.committed.SameQuizzes (Store.seed cond c).2.committed ∧
      c.committed.SameQuestions (Store.seed cond c).2.committed := by
  have hk : (Store.seed cond).Keeps
      (Connection.Holds c.committed.SoundlyExtendedTo fun _ => True) := Store.extends_seed
  obtain ⟨hext, hc'⟩ := (hk c ⟨⟨.refl _, hc⟩, trivial⟩).committed
  exact ⟨hext.sameQuizzes hc', hext.sameQuestions hc'⟩

/-! ## Parents -/

/-- No write that succeeds on a connection moves a row to another parent. -/
structure Store.KeepsParents (c : Connection) : Prop where
  createQuiz {cond : Conditions} {v v' : Quiz} {c' : Connection} :
    Store.createQuiz cond (v, c) = (.ok (), (v', c')) →
      c.committed.SameQuizzes c'.committed ∧ c.committed.SameQuestions c'.committed
  updateQuiz {cond : Conditions} {v v' : Quiz} {c' : Connection} :
    Store.updateQuiz cond (v, c) = (.ok (), (v', c')) →
      c.committed.SameQuizzes c'.committed ∧ ∀ r ∈ c.committed.choices,
        ∀ r' ∈ c'.committed.choices, r'.id = r.id →
          r'.questionId = r.questionId ∨ v.GivesAgain v' r r'
  createQuestion {cond : Conditions} {q q' : Question} {c' : Connection} :
    Store.createQuestion cond (q, c) = (.ok (), (q', c')) →
      c.committed.SameQuizzes c'.committed ∧ c.committed.SameQuestions c'.committed
  updateQuestion {cond : Conditions} {q q' : Question} {c' : Connection} :
    Store.updateQuestion cond (q, c) = (.ok (), (q', c')) →
      c.committed.SameQuizzes c'.committed ∧ c.committed.SameQuestions c'.committed
  /-- Seeding moves no row even if it fails halfway. -/
  seed {cond : Conditions} :
    c.committed.SameQuizzes (Store.seed cond c).2.committed ∧
      c.committed.SameQuestions (Store.seed cond c).2.committed

theorem Store.keepsParents (ht : Reachable c.committed) : Store.KeepsParents c where
  createQuiz := createQuiz_parents ht.sound
  updateQuiz := updateQuiz_parents ht.sound
  createQuestion := createQuestion_parents ht.sound
  updateQuestion := updateQuestion_parents ht.sound
  seed := seed_parents ht.sound

/-- The first demo quiz with its third question, now without choices, in front of its first, which
gets a new choice. -/
def Quiz.reordered : Quiz where
  id := 1
  title := some "Capitals"
  slug := some "capitals"
  description := some ""
  createdAt := none
  questions := [
    { Question.new "Germany?" 30 [] with id := 3 },
    { Question.new "France?" 10 [.new "Lyon" false] with id := 1 }]

theorem Store.keepsParents_reordered :
    Tables.demo.SameQuizzes (updateQuiz .calm (.reordered, .onto .demo)).2.2.committed ∧
      ∃ r r', Quiz.reordered.GivesAgain (updateQuiz .calm (.reordered, .onto .demo)).2.1 r r' ∧
        r.questionId = 3 ∧ r'.questionId = 1 := by
  have h : (updateQuiz .calm (.reordered, .onto .demo)).1 = .ok () := by decide +kernel
  have hk := (Store.keepsParents (c := .onto .demo) reachable_demo).updateQuiz (Prod.ext h rfl)
  have hr : (⟨9, 3, "Berlin", 1⟩ : ChoiceRow) ∈ Tables.demo.choices := by decide +kernel
  have hr' : (⟨9, 1, "Lyon", 0⟩ : ChoiceRow) ∈
      (updateQuiz .calm (.reordered, .onto .demo)).2.2.committed.choices := by decide +kernel
  have hmoved := hk.2 _ hr _ hr' rfl
  exact ⟨hk.1, _, _, hmoved.resolve_left (by decide), rfl, rfl⟩

/-- A choice that is stored before and after a write need not be under the same question. -/
theorem Store.not_always_under_same : ¬ ∀ (cond : Conditions) (c c' : Connection) (v v' : Quiz),
    Reachable c.committed → updateQuiz cond (v, c) = (.ok (), (v', c')) →
      c.committed.SameQuestions c'.committed := by
  intro hall
  have h : (updateQuiz .calm (.reordered, .onto .demo)).1 = .ok () := by decide +kernel
  have hr : (⟨9, 3, "Berlin", 1⟩ : ChoiceRow) ∈ Tables.demo.choices := by decide +kernel
  have hr' : (⟨9, 1, "Lyon", 0⟩ : ChoiceRow) ∈
      (updateQuiz .calm (.reordered, .onto .demo)).2.2.committed.choices := by decide +kernel
  have hsame := hall .calm (.onto .demo) _ .reordered _ reachable_demo (Prod.ext h rfl) _ hr _ hr'
  exact absurd (hsame rfl) (by decide)

end TriviaStore
