import TriviaStore.Proofs.Store.Atomicity
import TriviaStore.Proofs.Store.Success
import TriviaStore.Proofs.Store.Views

/-! # Whose ids an update accepts

An update accepts the id of a question only if the question was stored under the quiz, or if the same
call has just given the id to a new question; and likewise for the choices below a question that is
updated. Any other id makes it fail, and then nothing is stored. That ids given on the way are
accepted is due to rows being looked for in the order of the lists, in the tables as they are then.
-/

namespace TriviaStore

open Attempt

variable {plan : Plan Statement} {cond : Conditions} {c c' : Connection} {v v' : Quiz} {t : Tables}
  {p i j : Int} {qs qs' : List Question}

/-- An id has been given, before a position in the choices of the question at a position, to a
choice that was inserted under the same question. -/
def Choice.GivenBefore (qs qs' : List Question) (k l : Nat) (p i : Int) : Prop :=
  ∃ m n q q' x x', (m < k ∨ m = k ∧ n < l) ∧ qs[m]? = some q ∧ qs'[m]? = some q' ∧ q'.id = p ∧
    q.choices[n]? = some x ∧ q'.choices[n]? = some x' ∧ (q.id = 0 ∨ x.id = 0) ∧ x'.id = i

/-! ## Accepted ids -/

namespace Question

theorem Placement.choice_owned {q q' : Question} {c₁ : Connection}
    (h : Placement plan p q c q' c₁ c') (hq : q.id ≠ 0) {n : Nat} {x : Choice}
    (hx : q.choices[n]? = some x) (hx₀ : x.id ≠ 0) :
    (∃ r, c.working.choiceUnder q.id x.id = some r) ∨
      TriviaStore.GivenBefore (·.id) q.choices q'.choices n x.id := by
  rw [← desired_old hq] at hx ⊢
  refine (h.below.owned n x hx hx₀).imp_left ?_
  rintro ⟨r, hr, ho⟩
  have hr : c₁.working.choiceAt x.id = some r := hr
  have ho : r.questionId = q'.id := ho
  refine ⟨r, Option.filter_eq_some_iff.mpr ⟨?_, by simpa [ho] using (h.owned hq).1⟩⟩
  rw [Tables.choiceAt, ← h.choices]
  exact hr

/-- Placing a question stores a choice under it only if it was stored there or is inserted. -/
theorem Placement.choice_unowned {q q' : Question} {c₁ : Connection}
    (h : Placement plan p q c q' c₁ c') (hun : c.working.choiceUnder i j = none)
    (hnew : q'.id = i → ∀ (n : Nat) x x', q.choices[n]? = some x → q'.choices[n]? = some x' →
      q.id = 0 ∨ x.id = 0 → x'.id ≠ j) : c'.working.choiceUnder i j = none := by
  rw [h.choiceUnder]
  split
  · subst i
    have hno : ∀ x' ∈ q'.choices, x'.id ≠ j := by
      intro x' hx' hid
      obtain ⟨n, x, hn', hn, _⟩ :=
        exists_across (h.below.length.trans q.length_desired).symm hx'
      by_cases hins : q.id = 0 ∨ x.id = 0
      · exact hnew rfl n x x' hn hn' hins hid
      · obtain ⟨hq, hx⟩ := not_or.mp hins
        have hkept : x'.id = x.id := h.below.kept n x x' (desired_old hq ▸ hn) hn' hx
        rcases h.choice_owned hq hn hx with ⟨r, hr⟩ | ⟨m, _, y, y', hy, hy', h₀, he⟩
        · rw [← (h.owned hq).1, ← hkept, hid, hun] at hr
          cases hr
        · exact hnew rfl m y y' hy hy' (.inr h₀) (he.trans (hkept.symm.trans hid))
    rw [lastWith_eq_none.mpr hno]
    rfl
  · exact hun

theorem eachOf_choice_unowned (hs : c.working.Sound)
    (h : eachOf ((reconciler plan).place p) qs c = (.ok (), (qs', c')))
    (hun : c.working.choiceUnder i j = none)
    (hnew : ¬ Choice.GivenBefore qs qs' qs.length 0 i j) : c'.working.choiceUnder i j = none := by
  induction qs generalizing c qs' with
  | nil => cases h; exact hun
  | cons q qs ih =>
    obtain ⟨q', c₁, qs₁, hp, hr, rfl⟩ := eachOf_cons_eq_ok.mp h
    obtain ⟨_, hpl⟩ := place_ok hs hp
    refine ih hpl.below.inv.sound hr (hpl.choice_unowned hun fun hid n x x' hx hx' hins he => ?_)
      fun hg => ?_
    · exact hnew ⟨0, n, q, q', x, x', .inl (Nat.succ_pos _), rfl, rfl, hid, hx, hx', hins, he⟩
    · obtain ⟨m, n, y, y', x, x', hm, hy, hy', hrest⟩ := hg
      refine hnew ⟨m + 1, n, y, y', x, x', .inl ?_, hy, hy', hrest⟩
      rw [List.length_cons]
      omega

/-- What the ids of choices are checked against is what the tables hold when the choice's turn has
come. -/
theorem eachOf_choice_owned (hs : c.working.Sound)
    (h : eachOf ((reconciler plan).place p) qs c = (.ok (), (qs', c'))) {k l : Nat} {q : Question}
    {x : Choice} (hq : qs[k]? = some q) (hq₀ : q.id ≠ 0) (hx : q.choices[l]? = some x)
    (hx₀ : x.id ≠ 0) :
    (∃ r, c.working.choiceUnder q.id x.id = some r) ∨ Choice.GivenBefore qs qs' k l q.id x.id := by
  obtain ⟨c₁, q', c₂, hpre, hp, hq'⟩ := eachOf_at h hq
  have hs₁ : c₁.working.Sound :=
    ((view plan c.working).eachOf_place ⟨hs, rfl⟩ hpre).inv.1
  obtain ⟨c₃, hpl⟩ := place_ok hs₁ hp
  by_cases hun : c.working.choiceUnder q.id x.id = none
  · refine .inr (Classical.byContradiction fun hng => ?_)
    have hun₁ : c₁.working.choiceUnder q.id x.id = none := by
      refine eachOf_choice_unowned hs hpre hun fun hg => hng ?_
      obtain ⟨m, n, y, y', z, z', hm, hy, hy', hrest⟩ := hg
      rw [List.getElem?_take] at hy hy'
      split at hy
      · rw [if_pos ‹_›] at hy'
        exact ⟨m, n, y, y', z, z', .inl ‹_›, hy, hy', hrest⟩
      · cases hy
    rcases hpl.choice_owned hq₀ hx hx₀ with ⟨r, hr⟩ | ⟨m, hm, y, y', hy, hy', h₀, he⟩
    · rw [hun₁] at hr
      cases hr
    · exact hng ⟨k, m, q, q', y, y', .inr ⟨rfl, hm⟩, hq, hq', (hpl.owned hq₀).1, hy, hy', .inr h₀, he⟩
  · exact .inl (Option.ne_none_iff_exists'.mp hun)

theorem Placement.choice_fresh {q q' : Question} {c₁ : Connection}
    (h : Placement plan p q c q' c₁ c') {n : Nat} {x x' : Choice} (hx : q.choices[n]? = some x)
    (hx' : q'.choices[n]? = some x') (hins : q.id = 0 ∨ x.id = 0) {r : ChoiceRow}
    (hr : r ∈ c.working.choices) (hs : c.working.Sound) : r.id < x'.id := by
  have hat : c₁.working.choiceAt r.id = some r := by
    rw [Tables.choiceAt, h.choices]
    exact hs.choices.rowAt_of_mem hr
  by_cases hq : q.id = 0
  · have hdes : q.desired[n]? = some x.forget := by simp [desired, hq, hx]
    exact h.below.fresh n x.forget x' hdes hx' rfl r.id r hat
  · exact h.below.fresh n x x' (desired_old hq ▸ hx) hx' (hins.resolve_left hq) r.id r hat

/-- No choice below another quiz has had an id that is given on the way. -/
theorem eachOf_choice_given (hs : c.working.Sound)
    (h : eachOf ((reconciler plan).place p) qs c = (.ok (), (qs', c'))) {k l : Nat}
    (hg : Choice.GivenBefore qs qs' k l i j) {o : QuestionRow} {r : ChoiceRow}
    (ho : o ∈ c.working.questions) (hop : o.quizId ≠ p) (hr : r ∈ c.working.choices)
    (hro : r.questionId = o.id) : r.id ≠ j := by
  obtain ⟨m, n, q, q', x, x', _, hq, hq', _, hx, hx', hins, rfl⟩ := hg
  obtain ⟨c₁, q₁, c₂, hpre, hp, hq₁⟩ := eachOf_at h hq
  obtain rfl : q₁ = q' := Option.some.inj (hq₁.symm.trans hq')
  have hall := (view plan c.working).eachOf_place ⟨hs, rfl⟩ hpre
  obtain ⟨_, hpl⟩ := place_ok hall.inv.1 hp
  have hstored : c.working.storedQuestion o.id = some ⟨o, c.working.choiceUnder o.id⟩ := by
    rw [Tables.storedQuestion, Tables.questionAt, hs.questions.rowAt_of_mem ho, Option.map_some]
  -- The other quiz's question is as it was when the id is given, with all that is below it.
  have hsame : c₁.working.storedQuestion o.id = c.working.storedQuestion o.id :=
    hall.other o.id fun y hy he => hop (hall.claimed y hy ⟨o, _⟩ (he ▸ hstored))
  rw [hstored] at hsame
  obtain ⟨o₁, _, he⟩ := Option.map_eq_some_iff.mp hsame
  injection he with _ hbelow
  have hun : c₁.working.choiceUnder o.id r.id = some r := by
    rw [congrFun hbelow r.id, ← hro]
    exact Option.filter_eq_some_iff.mpr ⟨hs.choices.rowAt_of_mem hr, by simp⟩
  have hr₁ := mem_of_rowAt (Option.filter_eq_some_iff.mp hun).1
  exact Int.ne_of_lt (hpl.choice_fresh hx hx' hins hr₁ hall.inv.1)

end Question

/-- Every id in the quiz belongs where it is, or was given there on the way, and then it was not the
id of a question before, or of a choice below another quiz. -/
structure Quiz.Owns (v v' : Quiz) (t : Tables) : Prop where
  questions : ∀ (k : Nat) q, v.questions[k]? = some q → q.id ≠ 0 →
    (∃ r ∈ t.questions, r.id = q.id ∧ r.quizId = v.id) ∨
      GivenBefore (·.id) v.questions v'.questions k q.id ∧ ∀ r ∈ t.questions, r.id ≠ q.id
  choices : ∀ (k l : Nat) q x, v.questions[k]? = some q → q.id ≠ 0 → q.choices[l]? = some x →
    x.id ≠ 0 → (∃ r ∈ t.choices, r.id = x.id ∧ r.questionId = q.id) ∨
      Choice.GivenBefore v.questions v'.questions k l q.id x.id ∧
        ∀ r ∈ t.choices, r.id = x.id → ∃ o ∈ t.questions, o.id = r.questionId ∧ o.quizId = v.id

theorem Store.updateQuiz_owned (hc : c.committed.Sound)
    (h : Store.updateQuiz cond (v, c) = (.ok (), (v', c'))) : v.Owns v' c.committed := by
  obtain ⟨_, n, c₁, c₂, ids, hn, hu, hr, _, _⟩ := Store.updateQuiz_ok h
  obtain ⟨_, _, _, _, _, _, _, hqs, hxs, _, _⟩ := Tables.updateQuiz_at hc hn hu
  have hc₁ := hc.updateQuiz hu
  have hrec := (Question.view cond.plan c₁.working).reconcile ⟨hc₁, rfl⟩ hr
  obtain ⟨existing, c₃, c₄, he, hall, _, _⟩ := Reconciler.reconcile_eq_ok.mp hr
  obtain ⟨-, -, hw₃⟩ := Question.existing_ok he
  have hc₃ : c₃.working.Sound := hw₃ ▸ hc₁
  constructor
  · intro k q hq h₀
    rcases hrec.owned k q hq h₀ with ⟨s, hs, ho⟩ | hg
    · obtain ⟨r, hr, rfl⟩ := Option.map_eq_some_iff.mp hs
      exact .inl ⟨r, hqs ▸ mem_of_rowAt hr, key_of_rowAt hr, ho⟩
    · refine .inr ⟨hg, fun r hr => ?_⟩
      obtain ⟨j, _, d, d', hd, hd', hd₀, hid⟩ := hg
      rw [← hqs] at hr
      have hat : c₁.working.storedQuestion r.id = some ⟨r, c₁.working.choiceUnder r.id⟩ := by
        rw [Tables.storedQuestion, (Tables.mem_questions hc₁).mp hr, Option.map_some]
      have hlt : r.id < d'.id := hrec.fresh j d d' hd hd' hd₀ r.id _ hat
      have hid : d'.id = q.id := hid
      omega
  · intro k l q x hq hq₀ hx hx₀
    rcases Question.eachOf_choice_owned hc₃ hall hq hq₀ hx hx₀ with ⟨r, hr⟩ | hg
    · obtain ⟨hr, ho⟩ := Option.filter_eq_some_iff.mp hr
      rw [hw₃] at hr
      exact .inl ⟨r, hxs ▸ mem_of_rowAt hr, key_of_rowAt hr, by simpa using ho⟩
    · refine .inr ⟨hg, fun r hr hid => ?_⟩
      obtain ⟨o, ho, hro⟩ := hc.choice_owner r hr
      refine ⟨o, ho, hro, Classical.byContradiction fun hop => ?_⟩
      have ho₃ : o ∈ c₃.working.questions := by rwa [hw₃, hqs]
      have hr₃ : r ∈ c₃.working.choices := by rwa [hw₃, hxs]
      exact Question.eachOf_choice_given hc₃ hall hg ho₃ hop hr₃ hro.symm hid

end TriviaStore
