import TriviaStore.Proofs.Store.Distinct
import TriviaStore.Proofs.Store.Frame
import TriviaStore.Proofs.Store.Listing
import TriviaStore.Proofs.Store.Resave

/-! # Settled aggregates

An aggregate is settled in a store if saving it changes neither the aggregate nor the store. What was
read from a store is settled in it. So is the quiz that came of a write, unless something that is
stored empty was missing in it, or one row stands for two of its members.
-/

namespace TriviaStore

open Attempt

variable {cond : Conditions} {plan : Plan Statement} {c c' : Connection} {v v' : Quiz}
  {t T : Tables} {p : Int} {qs qs' : List Question}

/-- Saving the quiz, undisturbed, on any clock and on any connection to the store, succeeds and
changes neither the quiz nor the store. -/
def Quiz.SettledIn (t : Tables) (v : Quiz) : Prop :=
  ∀ clock, (Store.updateQuiz ⟨clock, .quiet⟩).Confirms (·.committed = t) v ()

/-- Saving the question succeeds and changes neither the question nor the store. -/
def Question.SettledIn (t : Tables) (q : Question) : Prop :=
  ∀ clock, (Store.updateQuestion ⟨clock, .quiet⟩).Confirms (·.committed = t) q ()

/-! ## Reading -/

theorem ChoiceRow.heldBy (ht : t.Sound) {r : ChoiceRow} (hr : r ∈ t.choices) :
    r.choice.HeldBy t r.questionId := by
  refine ⟨rfl, r, hr, ?_⟩
  have hflag : flag (r.isCorrect != 0) = r.isCorrect := by
    rcases ht.flags r hr with h | h <;> rw [h] <;> rfl
  exact congrArg (fun n => some (⟨r.id, r.questionId, r.text, n⟩ : ChoiceRow)) hflag

theorem QuestionRow.heldBy (ht : t.Sound) {r : QuestionRow} (hr : r ∈ t.questions) :
    (r.question t).HeldBy t r.quizId where
  parent := rfl
  row := ⟨r, hr, rfl⟩
  complete := ⟨rfl, rfl⟩
  choices x hx := by
    obtain ⟨s, hs, rfl⟩ := List.mem_map.mp hx
    obtain ⟨hs, hid⟩ := List.mem_filter.mp hs
    have hq : (r.question t).id = s.questionId := (of_decide_eq_true hid).symm
    rw [hq]
    exact s.heldBy ht hs
  all s hs hid := by
    have hbelow : s ∈ t.choices.filter (·.questionId == r.id) :=
      List.mem_filter.mpr ⟨hs, beq_iff_eq.mpr hid⟩
    exact ⟨s.choice, List.mem_map_of_mem hbelow, rfl⟩

theorem QuizRow.heldBy (ht : t.Sound) {r : QuizRow} (hr : r ∈ t.quizzes) :
    (r.quiz t).HeldBy t where
  row := ⟨r, hr, rfl, rfl, rfl, rfl⟩
  questions q hq := by
    obtain ⟨s, hs, rfl⟩ := List.mem_map.mp hq
    obtain ⟨hs, hid⟩ := List.mem_filter.mp hs
    have hv : (r.quiz t).id = s.quizId := (of_decide_eq_true hid).symm
    rw [hv]
    exact s.heldBy ht hs
  all s hs hid := by
    have hbelow : s ∈ t.questions.filter (·.quizId == r.id) :=
      List.mem_filter.mpr ⟨hs, beq_iff_eq.mpr hid⟩
    exact ⟨s.question t, List.mem_map_of_mem hbelow, rfl⟩

/-! ## Writing -/

/-- Nothing that would be stored empty is missing in the quiz. -/
structure Quiz.Complete (v : Quiz) : Prop where
  description : v.description.isSome
  questions : ∀ q ∈ v.questions, q.text.isSome ∧ q.imageUrl.isSome

/-- No two questions of the quiz have one id, and no two choices of one question. -/
structure Quiz.OwnIds (v : Quiz) : Prop where
  questions : (v.questions.map (·.id)).Nodup
  choices : ∀ q ∈ v.questions, (q.choices.map (·.id)).Nodup

/-- What is missing is the author's affair. -/
theorem Quiz.Complete.of_authored (h : v.Complete) (ha : v'.authored = v.authored) :
    v'.Complete := by
  constructor
  · have hdesc := congrArg Quiz.description ha
    exact hdesc.symm ▸ h.description
  · intro q' hq'
    have hmem : q'.authored ∈ v.authored.questions := by
      rw [← congrArg Quiz.questions ha]
      exact List.mem_map_of_mem hq'
    obtain ⟨q, hq, he⟩ := List.mem_map.mp hmem
    obtain ⟨htext, himage⟩ := h.questions q hq
    have ht := congrArg Question.text he
    have hi := congrArg Question.imageUrl he
    exact ⟨ht ▸ htext, hi ▸ himage⟩

/-- A question that was reconciled, and shares no row, is held with all its choices. -/
theorem Question.Reconciled.heldBy (h : Question.Reconciled plan T p qs c qs' c') {q' : Question}
    (hq' : q' ∈ qs') (hn : (qs'.map (·.id)).Nodup) (hx : (q'.choices.map (·.id)).Nodup)
    (hrow : ∀ x ∈ q'.choices, x.row?.isSome) (hcomplete : q'.text.isSome ∧ q'.imageUrl.isSome) :
    q'.HeldBy c'.working p := by
  have hlast : lastWith (·.id) q'.id qs' = some q' := lastWith_of_nodup hn hq'
  obtain ⟨r, hr, hparent⟩ := h.row_of_mem hq'
  have hat := h.questionUnder q'.id
  rw [hlast, Option.bind_some, hr, Tables.questionUnder, Option.filter_eq_some_iff] at hat
  refine ⟨hparent, ⟨r, mem_of_rowAt hat.1, hr⟩, hcomplete, fun x hx' => ?_, fun s hs hid => ?_⟩
  · obtain ⟨s, hs⟩ := Option.isSome_iff_exists.mp (hrow x hx')
    have hxat := h.choiceUnder hlast x.id
    rw [lastWith_of_nodup hx hx', Option.bind_some, hs, Tables.choiceUnder,
      Option.filter_eq_some_iff] at hxat
    obtain ⟨_, _, _, _, rfl⟩ := Choice.row?_eq_some hs
    exact ⟨of_decide_eq_true hxat.2, _, mem_of_rowAt hxat.1, hs⟩
  · have hxat := (Tables.mem_choices h.inv.1).mp hs
    rw [hid, h.choiceUnder hlast] at hxat
    obtain ⟨x, hx', _⟩ := Option.bind_eq_some_iff.mp hxat
    exact ⟨x, mem_of_lastWith hx'⟩

/-- A quiz that was stored, and in which nothing is missing and no row is shared, is held. -/
theorem Quiz.heldBy_of_reconcile {ids : List Int} (hs : c.working.Sound)
    (h : (Question.reconciler plan).reconcile v'.id (qs, c) = (.ok ids, (v'.questions, c')))
    (hrow : ∃ r ∈ c.working.quizzes, r.id = v'.id ∧ v'.title = some r.title ∧
      v'.slug = some r.slug ∧ v'.description = some r.description)
    (hc : v'.Complete) (hn : v'.OwnIds) : v'.HeldBy c'.working := by
  have hrec : Question.Reconciled plan c.working v'.id qs c v'.questions c' :=
    (Question.view plan c.working).reconcile ⟨hs, rfl⟩ h
  have hquizzes : c'.working.quizzes = c.working.quizzes := hrec.inv.2
  refine ⟨by rwa [hquizzes], fun q' hq' => ?_, fun r hr hid => ?_⟩
  · obtain ⟨k, q, hk', hk, _⟩ := exists_across hrec.length.symm hq'
    have hfiled := Question.filed_of_reconcile hs h hk hk'
    exact hrec.heldBy hq' hn.questions (hn.choices q' hq') hfiled.choice_row (hc.questions q' hq')
  · have hat := (Tables.mem_questions hrec.inv.1).mp hr
    have hu := hrec.questionUnder r.id
    rw [Tables.questionUnder, hat, Option.filter_some, if_pos (beq_iff_eq.mpr hid)] at hu
    obtain ⟨q', hq', _⟩ := Option.bind_eq_some_iff.mp hu.symm
    exact ⟨q', mem_of_lastWith hq'⟩

theorem Store.createQuiz_held (hs : c.committed.Sound)
    (h : Store.createQuiz cond (v, c) = (.ok (), (v', c'))) (hc : v.Complete) (hn : v'.OwnIds) :
    c'.committed.Sound ∧ v'.HeldBy c'.committed := by
  refine ⟨Store.createQuiz_sound hs h, ?_⟩
  have hcomplete := hc.of_authored (Store.fixes_createQuiz.eq h)
  obtain ⟨now, c₁, c₂, ids, hnow, hi, hr, hv, hc'⟩ := Store.createQuiz_ok h
  have hs₁ := hs.insertQuiz hnow hi
  obtain ⟨_, title, slug, htitle, hslug, _, _, _, ht₁⟩ := Tables.insertQuiz_eq_ok.mp hi
  obtain ⟨description, hdesc⟩ := Option.isSome_iff_exists.mp hc.description
  rw [hc']
  refine Quiz.heldBy_of_reconcile hs₁ hr ?_ hcomplete hn
  refine ⟨⟨v'.id, title, slug, v.description.getD "", some now.toMillis⟩, ?_, rfl, ?_⟩
  · rw [ht₁]
    exact List.mem_append_right _ List.mem_cons_self
  · rw [hv]
    exact ⟨htitle, hslug, by rw [hdesc]; rfl⟩

theorem Store.updateQuiz_held (hs : c.committed.Sound)
    (h : Store.updateQuiz cond (v, c) = (.ok (), (v', c'))) (hc : v.Complete) (hn : v'.OwnIds) :
    c'.committed.Sound ∧ v'.HeldBy c'.committed := by
  have hcomplete := hc.of_authored (Store.fixes_updateQuiz.eq h)
  obtain ⟨_, n, c₁, c₂, ids, hn₀, hu, hr, hv, hc'⟩ := Store.updateQuiz_ok h
  have hs₁ := hs.updateQuiz hu
  obtain ⟨title, slug, description, r, htitle, hslug, hdesc, _, _, _, hat⟩ :=
    Tables.updateQuiz_at hs hn₀ hu
  have hid : v'.id = v.id := by rw [hv]
  have hrow := hat v.id
  rw [if_pos rfl] at hrow
  rw [← hid] at hr
  rw [hc']
  refine ⟨((Question.view cond.plan c₁.working).reconcile ⟨hs₁, rfl⟩ hr).inv.1,
    Quiz.heldBy_of_reconcile hs₁ hr ?_ hcomplete hn⟩
  refine ⟨_, mem_of_rowAt hrow, hid.symm, ?_⟩
  rw [hv]
  exact ⟨htitle, hslug, hdesc⟩

/-! ## Settled aggregates -/

/-- What is read from a store is settled in it, and so is what writes leave in the store that they
leave. -/
structure Store.Settles (c : Connection) : Prop where
  quiz : ∀ r ∈ c.committed.quizzes,
    ∃ v, (Store.getQuiz .quiet r.id c).1 = .ok v ∧ v.SettledIn c.committed
  question : ∀ r ∈ c.committed.questions,
    ∃ q, (Store.getQuestion .quiet r.id c).1 = .ok q ∧ q.SettledIn c.committed
  created {cond : Conditions} {v v' : Quiz} {c' : Connection} :
    Store.createQuiz cond (v, c) = (.ok (), (v', c')) → v.Complete → v'.OwnIds →
      v'.SettledIn c'.committed
  updated {cond : Conditions} {v v' : Quiz} {c' : Connection} :
    Store.updateQuiz cond (v, c) = (.ok (), (v', c')) → v.Complete → v'.OwnIds →
      v'.SettledIn c'.committed

theorem Store.settles (ht : Reachable c.committed) : Store.Settles c where
  quiz r hr := by
    have hs := ht.sound
    exact ⟨_, getQuiz_row hs hr, fun clock => confirms_updateQuiz hs (r.heldBy hs hr) clock⟩
  question r hr := by
    have hs := ht.sound
    exact ⟨_, getQuestion_row hs hr, fun clock => confirms_updateQuestion hs (r.heldBy hs hr) clock⟩
  created h hc hn clock := by
    obtain ⟨hs', hv'⟩ := createQuiz_held ht.sound h hc hn
    exact confirms_updateQuiz hs' hv' clock
  updated h hc hn clock := by
    obtain ⟨hs', hv'⟩ := updateQuiz_held ht.sound h hc hn
    exact confirms_updateQuiz hs' hv' clock

theorem Store.settles_mixed :
    (updateQuiz .calm (.mixed, .onto .demo)).2.1.SettledIn
        (updateQuiz .calm (.mixed, .onto .demo)).2.2.committed ∧
      ∃ v, (getQuiz .quiet 1 (.onto .demo)).1 = .ok v ∧ v.SettledIn .demo := by
  have h : (updateQuiz .calm (.mixed, .onto .demo)).1 = .ok () := by decide +kernel
  have hs := Store.settles (c := .onto .demo) reachable_demo
  constructor
  · apply hs.updated (Prod.ext h rfl)
    · exact ⟨rfl, by decide⟩
    · exact ⟨by decide +kernel, by decide +kernel⟩
  · exact hs.quiz ⟨1, "Quiz 1", "quiz-1", "This is a quiz", some 0⟩ (by decide +kernel)

end TriviaStore
