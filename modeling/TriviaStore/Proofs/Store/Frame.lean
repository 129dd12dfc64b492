import TriviaStore.Proofs.Store.Append
import TriviaStore.Proofs.Store.Update

/-! # What a write leaves alone

A write is about one aggregate: a quiz with its questions and their choices, or a question with its
choices. The rows that belong elsewhere are there after the write as they were before, and nothing
is there afterwards that is new and belongs elsewhere, whatever ids the entities passed in carry.
-/

namespace TriviaStore

variable {cond : Conditions} {plan : Plan Statement} {c c' : Connection} {t t' : Tables} {p : Int}

/-- What a write is about. -/
inductive Aggregate
  | quiz (id : Int)
  | question (id : Int)
  deriving DecidableEq, Repr

namespace Aggregate

def OwnsQuiz : Aggregate → QuizRow → Prop
  | quiz id, r => r.id = id
  | question _, _ => False

def OwnsQuestion : Aggregate → QuestionRow → Prop
  | quiz id, r => r.quizId = id
  | question id, r => r.id = id

/-- A choice belongs where its question does. -/
def OwnsChoice (a : Aggregate) (t : Tables) (r : ChoiceRow) : Prop :=
  ∃ q ∈ t.questions, q.id = r.questionId ∧ a.OwnsQuestion q

/-- The rows of one store that do not belong to the aggregate there are rows of the other. -/
structure KeepsOutside (a : Aggregate) (t t' : Tables) : Prop where
  quizzes : ∀ r ∈ t.quizzes, ¬ a.OwnsQuiz r → r ∈ t'.quizzes
  questions : ∀ r ∈ t.questions, ¬ a.OwnsQuestion r → r ∈ t'.questions
  choices : ∀ r ∈ t.choices, ¬ a.OwnsChoice t r → r ∈ t'.choices

/-- A store has changed into another by changes to one aggregate: what belonged elsewhere is kept,
and what is new belongs to the aggregate. -/
structure ChangedWithin (a : Aggregate) (t t' : Tables) : Prop where
  kept : a.KeepsOutside t t'
  new : a.KeepsOutside t' t

/-- Outside the aggregate there are the same quizzes, and the same questions with the same below. -/
structure SameOutside (a : Aggregate) (t t' : Tables) : Prop where
  quizzes : ∀ r, ¬ a.OwnsQuiz r → (r ∈ t.quizzes ↔ r ∈ t'.quizzes)
  questions : ∀ s : StoredQuestion, ¬ a.OwnsQuestion s.row →
    (t.storedQuestion s.row.id = some s ↔ t'.storedQuestion s.row.id = some s)

variable {a : Aggregate}

/-- A choice that belongs elsewhere still does after questions have been taken away. -/
theorem KeepsOutside.trans {t₁ : Tables} (h : a.KeepsOutside t t₁) (h' : a.KeepsOutside t₁ t')
    (hq : t₁.questions ⊆ t.questions) : a.KeepsOutside t t' where
  quizzes r hr ha := h'.quizzes r (h.quizzes r hr ha) ha
  questions r hr ha := h'.questions r (h.questions r hr ha) ha
  choices r hr ha := by
    apply h'.choices r (h.choices r hr ha)
    rintro ⟨q, hm, hid, ho⟩
    exact ha ⟨q, hq hm, hid, ho⟩

theorem SameOutside.symm (h : a.SameOutside t t') : a.SameOutside t' t where
  quizzes r hr := (h.quizzes r hr).symm
  questions s hs := (h.questions s hs).symm

theorem SameOutside.keepsOutside (h : a.SameOutside t t') (ht : t.Sound) (ht' : t'.Sound) :
    a.KeepsOutside t t' := by
  have hquestion : ∀ r ∈ t.questions, ¬ a.OwnsQuestion r →
      t'.storedQuestion r.id = some ⟨r, t.choiceUnder r.id⟩ := by
    intro r hr ha
    refine (h.questions ⟨r, t.choiceUnder r.id⟩ ha).mp ?_
    rw [Tables.storedQuestion, (Tables.mem_questions ht).mp hr, Option.map_some]
  constructor
  · intro r hr ha
    exact (h.quizzes r ha).mp hr
  · intro r hr ha
    obtain ⟨r', hr', he⟩ := Option.map_eq_some_iff.mp (hquestion r hr ha)
    injection he with he _
    exact he ▸ mem_of_rowAt hr'
  · intro r hr ha
    obtain ⟨q, hq, hid⟩ := ht.choice_owner r hr
    obtain ⟨q', _, he⟩ := Option.map_eq_some_iff.mp (hquestion q hq fun ho => ha ⟨q, hq, hid, ho⟩)
    injection he with _ hbelow
    refine (Tables.mem_choices ht').mpr ?_
    rw [← hid, hbelow, hid]
    exact (Tables.mem_choices ht).mp hr

theorem SameOutside.changedWithin (h : a.SameOutside t t') (ht : t.Sound) (ht' : t'.Sound) :
    a.ChangedWithin t t' where
  kept := h.keepsOutside ht ht'
  new := h.symm.keepsOutside ht' ht

end Aggregate

/-- Rows have only been added. -/
structure Tables.ExtendedTo (t t' : Tables) : Prop where
  quizzes : t.quizzes <+: t'.quizzes
  questions : t.questions <+: t'.questions
  choices : t.choices <+: t'.choices

theorem Tables.ExtendedTo.refl (t : Tables) : t.ExtendedTo t where
  quizzes := List.prefix_refl _
  questions := List.prefix_refl _
  choices := List.prefix_refl _

theorem Tables.ExtendedTo.trans {t₁ t₂ : Tables} (h : t.ExtendedTo t₁) (h' : t₁.ExtendedTo t₂) :
    t.ExtendedTo t₂ where
  quizzes := h.quizzes.trans h'.quizzes
  questions := h.questions.trans h'.questions
  choices := h.choices.trans h'.choices

theorem Tables.ExtendedTo.keepsOutside (h : t.ExtendedTo t') (a : Aggregate) :
    a.KeepsOutside t t' where
  quizzes _ hr _ := h.quizzes.subset hr
  questions _ hr _ := h.questions.subset hr
  choices _ hr _ := h.choices.subset hr

open Aggregate

/-! ## Updates -/

theorem Store.updateQuiz_changes {v v' : Quiz} (hc : c.committed.Sound)
    (h : Store.updateQuiz cond (v, c) = (.ok (), (v', c'))) :
    (quiz v.id).ChangedWithin c.committed c'.committed := by
  obtain ⟨_, n, c₁, c₂, ids, hn, hu, hr, _, hc'⟩ := Store.updateQuiz_ok h
  obtain ⟨_, _, _, _, _, _, _, hqs, hxs, _, hat⟩ := Tables.updateQuiz_at hc hn hu
  have hc₁ := hc.updateQuiz hu
  have hrec : Question.Reconciled cond.plan c₁.working v.id v.questions c₁ v'.questions c₂ :=
    (Question.view cond.plan c₁.working).reconcile ⟨hc₁, rfl⟩ hr
  have hc₂ := hrec.inv.1
  rw [hc']
  apply SameOutside.changedWithin _ hc hc₂
  constructor
  · intro r hr
    have hr : r.id ≠ v.id := hr
    have hsame : c₂.working.quizAt r.id = c.committed.quizAt r.id := by
      rw [Tables.quizAt, hrec.inv.2, ← Tables.quizAt, hat, if_neg hr]
    rw [Tables.mem_quizzes hc, Tables.mem_quizzes hc₂, hsame]
  · intro s hs
    rw [← hrec.elsewhere hs]
    unfold Tables.storedQuestion Tables.questionAt Tables.choiceUnder Tables.choiceAt
    rw [hqs, hxs]

theorem Store.updateQuestion_changes {q q' : Question} (hc : c.committed.Sound)
    (h : Store.updateQuestion cond (q, c) = (.ok (), (q', c'))) :
    (question q.id).ChangedWithin c.committed c'.committed := by
  obtain ⟨_, n, c₁, c₂, ids, _, _, hu, _, hr, _, hc'⟩ := Store.updateQuestion_ok h
  obtain ⟨hqz, hxs, hat⟩ := Tables.updateQuestion_others hc hu
  have hc₁ := hc.updateQuestion hu
  have hrec := (Choice.view cond.plan c₁.working).reconcile (Question.around_self hc₁) hr
  have hc₂ := hrec.inv.sound
  rw [hc']
  apply SameOutside.changedWithin _ hc hc₂
  constructor
  · intro r _
    rw [hrec.inv.quizzes, hqz]
  · intro s hs
    have hrow : c₂.working.questionAt s.row.id = c.committed.questionAt s.row.id := by
      rw [Tables.questionAt, hrec.inv.questions, ← Tables.questionAt, hat _ hs]
    have hbelow : c₂.working.choiceUnder s.row.id = c.committed.choiceUnder s.row.id := by
      funext j
      have ho : c₂.working.choiceUnder s.row.id j = c₁.working.choiceUnder s.row.id j :=
        hrec.others s.row.id hs j
      rw [ho, Tables.choiceUnder, Tables.choiceUnder, Tables.choiceAt, Tables.choiceAt, hxs]
    rw [Tables.storedQuestion, Tables.storedQuestion, hrow, hbelow]

/-! ## Creations -/

theorem Tables.insertQuiz_changes {title slug description : Option String} {created id : Int}
    (h : t.insertQuiz title slug description created = .ok (id, t')) :
    t.ExtendedTo t' ∧ (quiz id).KeepsOutside t' t := by
  obtain ⟨_, _, _, _, _, _, _, _, rfl⟩ := insertQuiz_eq_ok.mp h
  refine ⟨⟨⟨_, rfl⟩, List.prefix_rfl, List.prefix_rfl⟩, ?_, fun _ hr _ => hr, fun _ hr _ => hr⟩
  intro r hr hn
  apply (List.mem_append.mp hr).resolve_right
  intro hr
  apply hn
  rw [List.mem_singleton.mp hr]
  rfl

theorem Question.Appended.extends {qs : List Question} {rows : List QuestionRow}
    {below : List ChoiceRow} (h : Question.Appended p qs t t' rows below) : t.ExtendedTo t' := by
  rw [h.tables]
  exact ⟨List.prefix_rfl, ⟨rows, rfl⟩, ⟨below, rfl⟩⟩

/-- What has been added below a quiz belongs to an aggregate that the questions belong to. -/
theorem Question.Appended.new {qs : List Question} {rows : List QuestionRow}
    {below : List ChoiceRow} {a : Aggregate} (h : Question.Appended p qs t t' rows below)
    (ha : ∀ q ∈ qs, ∀ r, q.row? = some r → a.OwnsQuestion r) : a.KeepsOutside t' t := by
  rw [h.tables]
  constructor
  · exact fun r hr _ => hr
  · intro r hr hn
    apply (List.mem_append.mp hr).resolve_right
    intro hr
    obtain ⟨q, hq, hrow⟩ := h.question_rows.exists_of_row hr
    exact hn (ha q hq r hrow)
  · intro r hr hn
    apply (List.mem_append.mp hr).resolve_right
    intro hr
    apply hn
    obtain ⟨x, hx, hrow⟩ := h.choice_rows.exists_of_row hr
    obtain ⟨q, hq, hxq⟩ := List.mem_flatMap.mp hx
    obtain ⟨r', hr', hrow'⟩ := h.question_rows.exists_row hq
    refine ⟨r', List.mem_append_right _ hr', ?_, ha q hq r' hrow'⟩
    obtain ⟨_, _, _, _, rfl⟩ := Choice.row?_eq_some hrow
    obtain ⟨_, _, rfl⟩ := Option.map_eq_some_iff.mp hrow'
    exact ((h.parents q hq).2 x hxq).symm

theorem Store.createQuiz_changes {v v' : Quiz} (hc : c.committed.Sound)
    (h : Store.createQuiz cond (v, c) = (.ok (), (v', c'))) :
    c.committed.ExtendedTo c'.committed ∧
      (quiz v'.id).ChangedWithin c.committed c'.committed := by
  obtain ⟨now, c₁, c₂, ids, hnow, hi, hr, _, hc'⟩ := Store.createQuiz_ok h
  have hforget : ∀ q ∈ v.questions.map Question.forget, q.id = 0 := by
    intro q hq
    obtain ⟨_, _, rfl⟩ := List.mem_map.mp hq
    rfl
  obtain ⟨hfirst, hquiz⟩ := Tables.insertQuiz_changes hi
  obtain ⟨rows, below, happ⟩ :=
    Question.reconcile_new (hc.insertQuiz hnow hi) hforget (Question.none_below_new hc hi) hr
  have hbelow : (quiz v'.id).KeepsOutside c₂.working c₁.working := by
    apply happ.new
    intro q hq r hrow
    obtain ⟨_, _, rfl⟩ := Option.map_eq_some_iff.mp hrow
    exact (happ.parents q hq).1
  have hall : c.committed.ExtendedTo c₂.working := hfirst.trans happ.extends
  rw [hc']
  exact ⟨hall, hall.keepsOutside _, hbelow.trans hquiz happ.extends.questions.subset⟩

theorem Store.createQuiz_sound {v v' : Quiz} (hc : c.committed.Sound)
    (h : Store.createQuiz cond (v, c) = (.ok (), (v', c'))) : c'.committed.Sound := by
  obtain ⟨now, c₁, c₂, ids, hnow, hi, hr, _, hc'⟩ := Store.createQuiz_ok h
  rw [hc']
  exact ((Question.view cond.plan c₁.working).reconcile ⟨hc.insertQuiz hnow hi, rfl⟩ hr).inv.1

theorem Store.createQuestion_changes {q q' : Question} (hc : c.committed.Sound)
    (h : Store.createQuestion cond (q, c) = (.ok (), (q', c'))) :
    c.committed.ExtendedTo c'.committed ∧
      (question q'.id).ChangedWithin c.committed c'.committed := by
  obtain ⟨c₁, c₂, hw, hp, hc'⟩ := Store.createQuestion_ok h
  rw [← hw] at hc ⊢
  rw [hc']
  obtain ⟨row, rows, happ⟩ := Question.place_new_appends hc rfl hp
  refine ⟨happ.extends, happ.extends.keepsOutside _, happ.new ?_⟩
  intro x hx r hrow
  obtain rfl := List.mem_singleton.mp hx
  obtain ⟨_, _, rfl⟩ := Option.map_eq_some_iff.mp hrow
  rfl

/-! ## All writes -/

/-- Every write that succeeds on a connection changes the committed rows within the aggregate it is
given or, when it creates one, only adds the rows of the aggregate that comes back. -/
structure Store.WritesWithin (c : Connection) : Prop where
  updateQuiz {cond : Conditions} {v v' : Quiz} {c' : Connection} :
    Store.updateQuiz cond (v, c) = (.ok (), (v', c')) →
      (quiz v.id).ChangedWithin c.committed c'.committed
  updateQuestion {cond : Conditions} {q q' : Question} {c' : Connection} :
    Store.updateQuestion cond (q, c) = (.ok (), (q', c')) →
      (question q.id).ChangedWithin c.committed c'.committed
  createQuiz {cond : Conditions} {v v' : Quiz} {c' : Connection} :
    Store.createQuiz cond (v, c) = (.ok (), (v', c')) →
      c.committed.ExtendedTo c'.committed ∧
        (quiz v'.id).ChangedWithin c.committed c'.committed
  createQuestion {cond : Conditions} {q q' : Question} {c' : Connection} :
    Store.createQuestion cond (q, c) = (.ok (), (q', c')) →
      c.committed.ExtendedTo c'.committed ∧
        (question q'.id).ChangedWithin c.committed c'.committed

theorem Store.writesWithin (ht : Reachable c.committed) : Store.WritesWithin c where
  updateQuiz := updateQuiz_changes ht.sound
  updateQuestion := updateQuestion_changes ht.sound
  createQuiz := createQuiz_changes ht.sound
  createQuestion := createQuestion_changes ht.sound

/-- The second demo question, given under the second quiz, with its first choice and a new one. -/
def Question.revised : Question :=
  { Question.new "Spain?" 20 [{ Choice.new "Madrid" true with id := 5 }, .new "Lisbon" false] with
    id := 2, quizId := 2 }

theorem Store.writesWithin_revised :
    (quiz 1).ChangedWithin .demo (updateQuiz .calm (.revised, .onto .demo)).2.2.committed ∧
      (question 2).ChangedWithin .demo
        (updateQuestion .calm (.revised, .onto .demo)).2.2.committed ∧
      Tables.demo.ExtendedTo (createQuiz .calm (.revised, .onto .demo)).2.2.committed ∧
      (question 4).ChangedWithin .demo
        (createQuestion .calm (.revised, .onto .demo)).2.2.committed := by
  have hw := Store.writesWithin (c := .onto .demo) reachable_demo
  have h₁ : (updateQuiz .calm (.revised, .onto .demo)).1 = .ok () := by decide +kernel
  have h₂ : (updateQuestion .calm (.revised, .onto .demo)).1 = .ok () := by decide +kernel
  have h₃ : (createQuiz .calm (.revised, .onto .demo)).1 = .ok () := by decide +kernel
  have h₄ : (createQuestion .calm (.revised, .onto .demo)).1 = .ok () := by decide +kernel
  have hid : (createQuestion .calm (.revised, .onto .demo)).2.1.id = 4 := by decide +kernel
  refine ⟨hw.updateQuiz (Prod.ext h₁ rfl), hw.updateQuestion (Prod.ext h₂ rfl),
    (hw.createQuiz (Prod.ext h₃ rfl)).1, ?_⟩
  rw [← hid]
  exact (hw.createQuestion (Prod.ext h₄ rfl)).2

end TriviaStore
