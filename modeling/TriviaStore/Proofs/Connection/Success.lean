import TriviaStore.Proofs.Attempt.Outcome
import TriviaStore.Store.Write

/-! # Successful statements

A statement that succeeds has acted on the session's tables, whatever the plan; nothing but the list
of statements issued changes besides.
-/

namespace TriviaStore

open Attempt

variable {plan : Plan Statement} {c c' : Connection}

namespace Connection

variable {α : Type}

theorem issue_ok {s : Statement} {act : Connection → Except Failure α × Connection} {a : α}
    (h : issue plan s act c = (.ok a, c')) :
    act { c with issued := c.issued ++ [s] } = (.ok a, c') := by
  unfold Connection.issue at h
  split at h
  · cases h
  · exact h

theorem query_ok {table : Table} {read : Tables → Except Failure α} {a : α}
    (h : query plan table read c = (.ok a, c')) :
    read c.working = .ok a ∧ c'.working = c.working := by
  obtain ⟨hr, rfl⟩ := Prod.mk.inj (issue_ok h)
  exact ⟨hr, rfl⟩

theorem apply_ok {change : Tables → Except Failure (α × Tables)} {a : α}
    (h : apply change c = (.ok a, c')) : change c.working = .ok (a, c'.working) := by
  unfold Connection.apply at h
  split at h
  · rename_i hc
    obtain ⟨h₁, rfl⟩ := Prod.mk.inj h
    cases h₁
    exact hc
  · cases h

theorem insert_ok {table : Table} {change : Tables → Except Failure (Int × Tables)} {id : Int}
    (h : insert plan table change c = (.ok id, c')) : change c.working = .ok (id, c'.working) := by
  have := apply_ok (issue_ok h)
  exact this

/-- A statement that has matched rows was not disturbed. -/
theorem write_ok {s : Statement} {change : Tables → Except Failure (Nat × Tables)} {n : Nat}
    (h : write plan s change c = (.ok n, c')) (hn : n ≠ 0) :
    change c.working = .ok (n, c'.working) := by
  unfold Connection.write at h
  split at h
  · cases h
    exact absurd rfl hn
  · have := apply_ok (issue_ok h)
    exact this

/-- A statement that nothing disturbs does what the tables allow. -/
theorem query_quiet {table : Table} {read : Tables → Except Failure α} {x : α}
    (h : read c.working = .ok x) : query .quiet table read c =
      (.ok x, { c with issued := c.issued ++ [.select table] }) := by
  rw [← h]
  rfl

theorem insert_quiet {table : Table} {change : Tables → Except Failure (Int × Tables)} {id : Int}
    {t : Tables} (h : change c.working = .ok (id, t)) : insert .quiet table change c =
      (.ok id, { c with working := t, issued := c.issued ++ [.insert table] }) := by
  simp only [Connection.insert, Connection.issue, Plan.quiet, Connection.apply, h]

theorem write_quiet {s : Statement} {change : Tables → Except Failure (Nat × Tables)} {n : Nat}
    {t : Tables} (h : change c.working = .ok (n, t)) :
    write .quiet s change c = (.ok n, { c with working := t, issued := c.issued ++ [s] }) := by
  simp only [Connection.write, Connection.issue, Plan.quiet, Connection.apply, h]

theorem begin_ok (h : (session plan).begin c = (.ok (), c')) : c'.working = c.working := by
  have h : issue plan .begin (fun c => (.ok (), c)) c = (.ok (), c') := h
  have h := issue_ok h
  cases h
  rfl

theorem commit_ok (h : (session plan).commit c = (.ok (), c')) : c'.committed = c.working := by
  have h : issue plan .commit (fun c => (.ok (), { c with committed := c.working })) c =
    (.ok (), c') := h
  have h := issue_ok h
  cases h
  rfl

end Connection

theorem assigning_eq_ok {τ : Type} {insert : τ → Attempt Connection Int} {set : Int → τ → τ} {x : τ}
    {y : τ × Connection} :
    assigning insert set (x, c) = (.ok (), y) ↔
      ∃ id c', insert x c = (.ok id, c') ∧ y = (set id x, c') := by
  dsimp only [assigning]
  rcases insert x c with ⟨e | id, c₁⟩
  · simp
  · simp only [Prod.mk.injEq, true_and, Except.ok.injEq]
    constructor
    · exact fun h => ⟨id, c₁, ⟨rfl, rfl⟩, h.symm⟩
    · rintro ⟨_, _, ⟨rfl, rfl⟩, rfl⟩
      rfl

theorem Choice.update_eq_ok {parent : Option Int} {x : Choice} {n : Nat} {y : Choice × Connection} :
    (Choice.reconciler plan).update parent (x, c) = (.ok n, y) ↔
      ∃ c', Connection.write plan (.update .choices)
        (Tables.updateChoice x.id parent x.text x.correct) c = (.ok n, c') ∧ y = (x, c') := by
  dsimp only [Choice.reconciler]
  rcases Connection.write plan (.update .choices)
    (Tables.updateChoice x.id parent x.text x.correct) c with ⟨r, c₁⟩
  constructor
  · intro h
    obtain ⟨rfl, rfl⟩ := Prod.mk.inj h
    exact ⟨c₁, rfl, rfl⟩
  · rintro ⟨_, h, rfl⟩
    obtain ⟨rfl, rfl⟩ := Prod.mk.inj h
    rfl

/-- A question updated under a quiz is left as it is. -/
theorem Question.update_eq_ok {p : Int} {q : Question} {n : Nat} {y : Question × Connection} :
    Question.update plan (some p) (q, c) = (.ok n, y) ↔
      ∃ c', Connection.write plan (.update .questions)
        (Tables.updateQuestion q.id (some p) q.text q.imageUrl q.position) c = (.ok n, c') ∧
        y = (q, c') := by
  unfold Question.update
  rw [bind_of_ok (read_run _), bind_eq_ok]
  constructor
  · rintro ⟨rows, ⟨_, c₁⟩, hw, h⟩
    obtain ⟨hw, rfl⟩ := onSecond_eq_ok.mp hw
    have hs : ¬ (rows ≠ 0 ∧ some p = none) := fun h => by cases h.2
    rw [if_neg hs] at h
    cases h
    exact ⟨c₁, hw, rfl⟩
  · rintro ⟨c', hw, rfl⟩
    refine ⟨n, (q, c'), onSecond_eq_ok.mpr ⟨hw, rfl⟩, ?_⟩
    have hs : ¬ (n ≠ 0 ∧ some p = none) := fun h => by cases h.2
    rw [if_neg hs]
    rfl

/-- A question is pointed at the quiz that it is stored under, if it is stored. -/
theorem Question.findOwner_eq_ok {q : Question} {y : Question × Connection} :
    Question.findOwner plan (q, c) = (.ok (), y) ↔
      ∃ r? c', Connection.query plan .questions (Tables.question? q.id) c = (.ok r?, c') ∧
        y = ({ q with quizId := (r?.map QuestionRow.quizId).getD q.quizId }, c') := by
  dsimp only [Question.findOwner]
  rcases Connection.query plan .questions (Tables.question? q.id) c with ⟨e | r?, c₁⟩
  · simp
  constructor
  · intro h
    refine ⟨r?, c₁, rfl, ?_⟩
    cases r? <;> exact (Prod.mk.inj h).2.symm
  · rintro ⟨_, _, h, rfl⟩
    cases h
    cases r? <;> rfl

/-- A question updated by its id alone has been written, and then its owner was looked up. -/
theorem Question.update_alone_ok {q : Question} {n : Nat} {y : Question × Connection} (hn : n ≠ 0)
    (h : Question.update plan none (q, c) = (.ok n, y)) :
    ∃ r?, c.working.updateQuestion q.id none q.text q.imageUrl q.position = .ok (n, y.2.working) ∧
      y.2.working.question? q.id = .ok r? ∧
      y.1 = { q with quizId := (r?.map QuestionRow.quizId).getD q.quizId } := by
  unfold Question.update at h
  rw [bind_of_ok (read_run _), bind_eq_ok] at h
  obtain ⟨rows, ⟨_, c₁⟩, hw, h⟩ := h
  obtain ⟨hw, rfl⟩ := onSecond_eq_ok.mp hw
  by_cases hr : rows = 0
  · have hs : ¬ (rows ≠ 0 ∧ (none : Option Int) = none) := fun h => h.1 hr
    rw [if_neg hs] at h
    cases h
    exact absurd hr hn
  · have hs : rows ≠ 0 ∧ (none : Option Int) = none := ⟨hr, rfl⟩
    rw [if_pos hs] at h
    obtain ⟨_, z, hf, h⟩ := bind_eq_ok.mp h
    obtain ⟨r?, c₂, hq, rfl⟩ := Question.findOwner_eq_ok.mp hf
    obtain ⟨hq, hw₂⟩ := Connection.query_ok hq
    cases h
    refine ⟨r?, ?_, ?_, rfl⟩
    · rw [hw₂]
      exact Connection.write_ok hw hn
    · rwa [hw₂]

theorem Question.reconcileChoices_eq_ok {q : Question} {y : Question × Connection} :
    Question.reconcileChoices plan (q, c) = (.ok (), y) ↔
      ∃ ids choices c', (Choice.reconciler plan).reconcile q.id (q.choices, c) =
        (.ok ids, (choices, c')) ∧ y = ({ q with choices }, c') := by
  dsimp only [Question.reconcileChoices]
  rcases (Choice.reconciler plan).reconcile q.id (q.choices, c) with ⟨e | ids, choices, c₁⟩
  · simp [Except.map]
  · simp only [Except.map, Prod.mk.injEq, true_and, Except.ok.injEq]
    constructor
    · exact fun h => ⟨ids, choices, c₁, ⟨rfl, rfl, rfl⟩, h.symm⟩
    · rintro ⟨_, _, _, ⟨rfl, rfl, rfl⟩, rfl⟩
      rfl

theorem Store.reconcileQuestions_eq_ok {cond : Conditions} {v : Quiz} {y : Quiz × Connection} :
    Store.reconcileQuestions cond (v, c) = (.ok (), y) ↔
      ∃ ids questions c', (Question.reconciler cond.plan).reconcile v.id (v.questions, c) =
        (.ok ids, (questions, c')) ∧ y = ({ v with questions }, c') := by
  dsimp only [Store.reconcileQuestions]
  rcases (Question.reconciler cond.plan).reconcile v.id (v.questions, c) with
    ⟨e | ids, questions, c₁⟩
  · simp [Except.map]
  · simp only [Except.map, Prod.mk.injEq, true_and, Except.ok.injEq]
    constructor
    · exact fun h => ⟨ids, questions, c₁, ⟨rfl, rfl, rfl⟩, h.symm⟩
    · rintro ⟨_, _, _, ⟨rfl, rfl, rfl⟩, rfl⟩
      rfl

/-! ## Whatever the outcome

On the connection, a call on an entity is the one statement that it issues. -/

theorem assigning_connection {τ : Type} {insert : τ → Attempt Connection Int} {set : Int → τ → τ}
    (x : τ × Connection) : (assigning insert set x).2.2 = (insert x.1 x.2).2 := by
  obtain ⟨t, c⟩ := x
  dsimp only [assigning]
  split <;> rename_i h <;> rw [h]

theorem Question.findOwner_connection (x : Question × Connection) : (Question.findOwner plan x).2.2 =
    (Connection.query plan .questions (Tables.question? x.1.id) x.2).2 := by
  obtain ⟨q, c⟩ := x
  dsimp only [Question.findOwner]
  split <;> rename_i h <;> rw [h]

namespace Store

variable {cond : Conditions}

theorem insertQuiz_undated (h : Moment.now? cond.clock = none) (x : Quiz × Connection) :
    insertQuiz cond x = (.error .overflow, x) := by
  dsimp only [insertQuiz]
  rw [h]

theorem insertQuiz_connection {now : Moment} (hnow : Moment.now? cond.clock = some now)
    (x : Quiz × Connection) : (insertQuiz cond x).2.2 = (Connection.insert cond.plan .quizzes
      (Tables.insertQuiz x.1.title x.1.slug x.1.description now.toMillis) x.2).2 := by
  obtain ⟨v, c⟩ := x
  dsimp only [insertQuiz]
  rw [hnow]
  dsimp only
  split <;> rename_i h <;> exact (congrArg Prod.snd h).symm.trans mapFailure_snd

end Store

end TriviaStore
