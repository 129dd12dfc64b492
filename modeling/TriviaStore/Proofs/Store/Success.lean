import TriviaStore.Proofs.Connection.Success
import TriviaStore.Proofs.Reconcile.Success
import TriviaStore.Proofs.Store.Keeps
import TriviaStore.Proofs.Transaction.Shield

/-! # Successful writes

A write that succeeds has done its work on the committed tables and committed what came of it: it
has set the quiz's row, and then reconciled the questions below.
-/

namespace TriviaStore.Store

open Attempt

variable {cond : Conditions} {c c' : Connection} {v v' : Quiz}

theorem transacting_ok {τ : Type} {plan : Plan Statement} {work : Attempt (τ × Connection) Unit}
    {x x' : τ} (h : transacting plan work (x, c) = (.ok (), (x', c'))) :
    ∃ c₁ c₂, (Connection.session plan).begin c.refresh = (.ok (), c₁) ∧
      work (x, c₁) = (.ok (), (x', c₂)) ∧ c'.committed = c₂.working := by
  have ha : (Connection.session plan).alongside.acquire (x, c) = (.ok (), (x, c.refresh)) := rfl
  obtain ⟨⟨x₁, c₁⟩, ⟨x₂, c₂⟩, ⟨x₃, c₃⟩, hb, hw, hm, hc⟩ :=
    (SessionCalls.transaction_eq_ok Connection.session_closes.alongside ha).mp h
  obtain ⟨hb₁, rfl⟩ := onSecond_eq_ok.mp hb
  obtain ⟨hm₁, rfl⟩ := onSecond_eq_ok.mp hm
  have hm₂ := Connection.commit_ok hm₁
  obtain ⟨rfl, rfl⟩ := Prod.mk.inj hc
  exact ⟨c₁, c₂, hb₁, hw, hm₂⟩

/-- Undisturbed, a transaction succeeds if its work succeeds on the committed tables. -/
theorem transacting_of_ok {τ : Type} {x : τ} (work : Attempt (τ × Connection) Unit)
    (hw : ∀ c₁ : Connection, c₁.working = c.committed → ∃ y, work (x, c₁) = (.ok (), y)) :
    ∃ y, transacting .quiet work (x, c) = (.ok (), y) := by
  have ha : (Connection.session .quiet).alongside.acquire (x, c) = (.ok (), (x, c.refresh)) := rfl
  obtain ⟨y, hy⟩ := hw { c.refresh with issued := c.issued ++ [.begin] } rfl
  exact ⟨_, (SessionCalls.transaction_eq_ok Connection.session_closes.alongside ha).mpr
    ⟨_, _, _, rfl, hy, rfl, rfl⟩⟩

theorem overwriteQuiz_eq_ok {y : Quiz × Connection} :
    overwriteQuiz cond (v, c) = (.ok (), y) ↔ ∃ n c₁, n ≠ 0 ∧ y = (v, c₁) ∧
      Connection.write cond.plan (.update .quizzes)
        (Tables.updateQuiz v.id v.title v.slug v.description) c = (.ok n, c₁) := by
  unfold overwriteQuiz
  rw [bind_of_ok (read_run _), bind_eq_ok]
  constructor
  · rintro ⟨n, ⟨_, c₁⟩, hw, h⟩
    obtain ⟨hw, rfl⟩ := onSecond_eq_ok.mp hw
    split at h
    · cases h
    · cases h
      exact ⟨n, c₁, ‹_›, rfl, wrapping_eq_ok.mp hw⟩
  · rintro ⟨n, c₁, hn, rfl, hw⟩
    refine ⟨n, (v, c₁), onSecond_eq_ok.mpr ⟨wrapping_eq_ok.mpr hw, rfl⟩, ?_⟩
    rw [if_neg hn]
    rfl

theorem insertQuiz_ok {y : Quiz × Connection} (h : insertQuiz cond (v, c) = (.ok (), y)) :
    ∃ now id c₁, Moment.now? cond.clock = some now ∧
      y = ({ v with id, createdAt := some now.toInstant }, c₁) ∧
      c.working.insertQuiz v.title v.slug v.description now.toMillis = .ok (id, c₁.working) := by
  dsimp only [insertQuiz] at h
  split at h
  · cases h
  · split at h
    · rename_i now hn _ id c₁ hi
      cases h
      exact ⟨now, id, c₁, hn, rfl, Connection.insert_ok (wrapping_eq_ok.mp hi)⟩
    · cases h

/-- A quiz that has an id is overwritten, and its questions are reconciled. -/
theorem upsertQuiz_old (hv : v.id ≠ 0) (h : upsertQuiz cond (v, c) = (.ok (), (v', c'))) :
    ∃ c₁ ids, overwriteQuiz cond (v, c) = (.ok (), (v, c₁)) ∧
      (Question.reconciler cond.plan).reconcile v.id (v.questions, c₁) =
        (.ok ids, (v'.questions, c')) ∧ v' = { v with questions := v'.questions } := by
  unfold upsertQuiz at h
  rw [bind_of_ok (read_run _)] at h
  dsimp only at h
  rw [if_neg hv] at h
  obtain ⟨_, y, ho, h⟩ := bind_eq_ok.mp h
  obtain ⟨_, c₁, _, rfl, _⟩ := overwriteQuiz_eq_ok.mp ho
  obtain ⟨ids, questions, c₂, hr, he⟩ := reconcileQuestions_eq_ok.mp (inContext_eq_ok.mp h)
  obtain ⟨rfl, rfl⟩ := Prod.mk.inj he
  exact ⟨c₁, ids, ho, hr, rfl⟩

/-- A quiz that has no id is inserted, and its questions are reconciled under the new id. -/
theorem upsertQuiz_new (hv : v.id = 0) (h : upsertQuiz cond (v, c) = (.ok (), (v', c'))) :
    ∃ now c₁ ids, Moment.now? cond.clock = some now ∧
      c.working.insertQuiz v.title v.slug v.description now.toMillis = .ok (v'.id, c₁.working) ∧
      (Question.reconciler cond.plan).reconcile v'.id (v.questions, c₁) =
        (.ok ids, (v'.questions, c')) ∧
      v' = { v with id := v'.id, createdAt := some now.toInstant, questions := v'.questions } := by
  unfold upsertQuiz at h
  rw [bind_of_ok (read_run _)] at h
  dsimp only at h
  rw [if_pos hv] at h
  obtain ⟨_, y, ho, h⟩ := bind_eq_ok.mp h
  obtain ⟨now, id, c₁, hn, rfl, hi⟩ := insertQuiz_ok ho
  obtain ⟨ids, questions, c₂, hr, he⟩ := reconcileQuestions_eq_ok.mp (inContext_eq_ok.mp h)
  obtain ⟨rfl, rfl⟩ := Prod.mk.inj he
  exact ⟨now, c₁, ids, hn, hi, hr, rfl⟩

theorem announce_ok {τ : Type} {event : τ → Event} {x x' : τ}
    (h : announce event (x, c) = (.ok (), (x', c'))) : x' = x ∧ c'.committed = c.committed := by
  obtain ⟨_, h⟩ := Prod.mk.inj h
  obtain ⟨rfl, rfl⟩ := Prod.mk.inj h
  exact ⟨rfl, rfl⟩

/-- An update has overwritten the quiz's row in the committed tables, reconciled the questions, and
committed. -/
theorem updateQuiz_ok (h : updateQuiz cond (v, c) = (.ok (), (v', c'))) :
    v.id ≠ 0 ∧ ∃ n c₁ c₂ ids, n ≠ 0 ∧
      c.committed.updateQuiz v.id v.title v.slug v.description = .ok (n, c₁.working) ∧
      (Question.reconciler cond.plan).reconcile v.id (v.questions, c₁) =
        (.ok ids, (v'.questions, c₂)) ∧
      v' = { v with questions := v'.questions } ∧ c'.committed = c₂.working := by
  unfold updateQuiz at h
  rw [bind_of_ok (read_run _)] at h
  dsimp only at h
  split at h
  · obtain ⟨_, _, hf, _⟩ := bind_eq_ok.mp h
    cases hf
  obtain ⟨_, ⟨x, c₃⟩, ht, h⟩ := bind_eq_ok.mp h
  obtain ⟨c₀, c₂, hb, hw, hc₃⟩ := transacting_ok ht
  have hc₀ : c₀.working = c.committed := Connection.begin_ok hb
  obtain ⟨rfl, hc⟩ := announce_ok h
  obtain ⟨c₁, ids, ho, hr, he⟩ := upsertQuiz_old ‹_› hw
  obtain ⟨n, _, hn, hy, hu⟩ := overwriteQuiz_eq_ok.mp ho
  obtain ⟨_, rfl⟩ := Prod.mk.inj hy
  exact ⟨‹_›, n, c₁, c₂, ids, hn, hc₀ ▸ Connection.write_ok hu hn, hr, he, hc.trans hc₃⟩

/-- A creation has inserted the quiz's row into the committed tables, reconciled the questions under
its id, and committed. -/
theorem createQuiz_ok (h : createQuiz cond (v, c) = (.ok (), (v', c'))) :
    ∃ now c₁ c₂ ids, Moment.now? cond.clock = some now ∧
      c.committed.insertQuiz v.title v.slug v.description now.toMillis = .ok (v'.id, c₁.working) ∧
      (Question.reconciler cond.plan).reconcile v'.id (v.questions.map Question.forget, c₁) =
        (.ok ids, (v'.questions, c₂)) ∧
      v' = { v with id := v'.id, createdAt := some now.toInstant, questions := v'.questions } ∧
      c'.committed = c₂.working := by
  unfold createQuiz at h
  rw [bind_of_ok (update_run _ _)] at h
  obtain ⟨_, ⟨x, c₃⟩, ht, h⟩ := bind_eq_ok.mp h
  obtain ⟨c₀, c₂, hb, hw, hc₃⟩ := transacting_ok ht
  have hc₀ : c₀.working = c.committed := Connection.begin_ok hb
  obtain ⟨rfl, hc⟩ := announce_ok h
  obtain ⟨now, c₁, ids, hn, hi, hr, he⟩ := upsertQuiz_new rfl hw
  exact ⟨now, c₁, c₂, ids, hn, hc₀ ▸ hi, hr, he, hc.trans hc₃⟩

section Questions

variable {q q' : Question}

/-- A creation has placed the question, as one that was never stored, under the quiz that it points
at, in the committed tables, and committed. -/
theorem createQuestion_ok (h : createQuestion cond (q, c) = (.ok (), (q', c'))) :
    ∃ c₁ c₂, c₁.working = c.committed ∧
      (Question.reconciler cond.plan).place q.quizId (q.forget, c₁) = (.ok (), (q', c₂)) ∧
      c'.committed = c₂.working := by
  unfold createQuestion at h
  rw [bind_of_ok (update_run _ _)] at h
  obtain ⟨_, ⟨x, c₃⟩, ht, h⟩ := bind_eq_ok.mp h
  obtain ⟨c₁, c₂, hb, hw, hc₃⟩ := transacting_ok ht
  obtain ⟨rfl, hc⟩ := announce_ok h
  refine ⟨c₁, c₂, Connection.begin_ok hb, Reconciler.place_eq_ok.mpr ?_, hc.trans hc₃⟩
  have hnew : (Question.reconciler cond.plan).id q.forget = 0 := rfl
  exact (Reconciler.upsert_of_new hnew).symm.trans hw

/-- An update has overwritten the question's row in the committed tables, found the question's owner,
reconciled the choices, and committed. -/
theorem updateQuestion_ok (h : updateQuestion cond (q, c) = (.ok (), (q', c'))) :
    q.id ≠ 0 ∧ ∃ n c₁ c₂ ids r?, n ≠ 0 ∧
      c.committed.updateQuestion q.id none q.text q.imageUrl q.position = .ok (n, c₁.working) ∧
      c₁.working.question? q.id = .ok r? ∧
      (Choice.reconciler cond.plan).reconcile q.id (q.choices, c₁) = (.ok ids, (q'.choices, c₂)) ∧
      q' = { q with quizId := (r?.map QuestionRow.quizId).getD q.quizId, choices := q'.choices } ∧
      c'.committed = c₂.working := by
  unfold updateQuestion at h
  rw [bind_of_ok (read_run _)] at h
  dsimp only at h
  split at h
  · obtain ⟨_, _, hf, _⟩ := bind_eq_ok.mp h
    cases hf
  rename_i hq
  obtain ⟨_, ⟨x, c₃⟩, ht, h⟩ := bind_eq_ok.mp h
  obtain ⟨c₀, c₂, hb, hw, hc₃⟩ := transacting_ok ht
  have hc₀ : c₀.working = c.committed := Connection.begin_ok hb
  obtain ⟨rfl, hc⟩ := announce_ok h
  rcases Reconciler.upsert_eq_ok.mp hw with ⟨hz, _⟩ | ⟨_, n, ⟨q₁, c₁⟩, hn, hu, hd⟩
  · exact absurd hz hq
  obtain ⟨r?, hu, hr, rfl⟩ := Question.update_alone_ok hn hu
  obtain ⟨ids, choices, _, hrec, hy⟩ := Question.reconcileChoices_eq_ok.mp hd
  obtain ⟨rfl, rfl⟩ := Prod.mk.inj hy
  exact ⟨hq, n, c₁.note _, c₂, ids, r?, hn, hc₀ ▸ hu, hr, hrec, rfl, hc.trans hc₃⟩

end Questions

end TriviaStore.Store
