import TriviaStore.Proofs.Attempt.Failing
import TriviaStore.Proofs.Connection.Success
import TriviaStore.Proofs.Reconcile.Origin

/-! # Failing statements

A statement that fails has been let fail by the plan, or the tables have refused it; then nothing has
changed but the list of statements issued. That list ends with the statement, however it went.
-/

namespace TriviaStore

open Attempt

variable {plan : Plan Statement} {c c' : Connection} {e : Failure}

/-- The table that a statement is about. -/
def Statement.table? : Statement → Option Table
  | .select t | .insert t | .update t | .delete t => some t
  | .ping | .begin | .commit | .rollback => none

namespace Connection

variable {α : Type} {table : Table}

/-- The last statement issued was about the table. -/
def EndsOn (table : Table) (c : Connection) : Prop :=
  c.issued.getLast?.bind Statement.table? = some table

theorem endsOn_of_issued {s : Statement} {past : List Statement} (hs : s.table? = some table)
    (h : c.issued = past ++ [s]) : c.EndsOn table := by
  unfold EndsOn
  rw [h, List.getLast?_concat]
  exact hs

theorem issue_issued {s : Statement} {act : Connection → Except Failure α × Connection}
    {r : Except Failure α} (hact : ∀ c, (act c).2.issued = c.issued)
    (h : issue plan s act c = (r, c')) : c'.issued = c.issued ++ [s] := by
  unfold Connection.issue at h
  split at h
  · cases h
    rfl
  · rw [show c' = _ from (congrArg Prod.snd h).symm, hact]

theorem apply_issued {change : Tables → Except Failure (α × Tables)} (c : Connection) :
    (apply change c).2.issued = c.issued := by
  unfold Connection.apply
  split <;> rfl

theorem query_endsOn {read : Tables → Except Failure α} {r : Except Failure α}
    (h : query plan table read c = (r, c')) : c'.EndsOn table :=
  endsOn_of_issued rfl (issue_issued (fun _ => rfl) h)

theorem insert_endsOn {change : Tables → Except Failure (Int × Tables)} {r : Except Failure Int}
    (h : insert plan table change c = (r, c')) : c'.EndsOn table :=
  endsOn_of_issued rfl (issue_issued apply_issued h)

theorem write_endsOn {s : Statement} {change : Tables → Except Failure (Nat × Tables)}
    {r : Except Failure Nat} (hs : s.table? = some table) (h : write plan s change c = (r, c')) :
    c'.EndsOn table := by
  unfold Connection.write at h
  split at h
  · cases h
    exact endsOn_of_issued hs rfl
  · exact endsOn_of_issued hs (issue_issued apply_issued h)

end Connection

theorem assigning_eq_error {τ : Type} {insert : τ → Attempt Connection Int} {set : Int → τ → τ}
    {x : τ} {y : τ × Connection} : assigning insert set (x, c) = (.error e, y) ↔
      ∃ c', insert x c = (.error e, c') ∧ y = (x, c') := by
  dsimp only [assigning]
  rcases insert x c with ⟨f | id, c₁⟩
  · simp only [Prod.mk.injEq, Except.error.injEq]
    constructor
    · rintro ⟨rfl, h⟩
      exact ⟨c₁, ⟨rfl, rfl⟩, h.symm⟩
    · rintro ⟨_, ⟨rfl, rfl⟩, rfl⟩
      exact ⟨rfl, rfl⟩
  · simp

theorem assigning_endsOn {τ : Type} {table : Table} {insert : τ → Attempt Connection Int}
    {set : Int → τ → τ} {x y : τ × Connection} {r : Except Failure Unit}
    (hinsert : ∀ {t c r c'}, insert t c = (r, c') → c'.EndsOn table)
    (h : assigning insert set x = (r, y)) : y.2.EndsOn table := by
  obtain ⟨t, c⟩ := x
  rcases r with e | ⟨⟩
  · obtain ⟨c', hi, rfl⟩ := assigning_eq_error.mp h
    exact hinsert hi
  · obtain ⟨id, c', hi, rfl⟩ := assigning_eq_ok.mp h
    exact hinsert hi

/-- A question updated under a quiz fails where its row is written. -/
theorem Question.update_eq_error {p : Int} {q : Question} {y : Question × Connection} :
    Question.update plan (some p) (q, c) = (.error e, y) ↔
      ∃ c', Connection.write plan (.update .questions)
        (Tables.updateQuestion q.id (some p) q.text q.imageUrl q.position) c = (.error e, c') ∧
        y = (q, c') := by
  obtain ⟨q', c'⟩ := y
  unfold Question.update
  rw [bind_of_ok (read_run _), bind_eq_error]
  constructor
  · rintro (hw | ⟨rows, ⟨_, c₁⟩, hw, h⟩)
    · obtain ⟨hw, rfl⟩ := onSecond_eq_error.mp hw
      exact ⟨c', hw, rfl⟩
    · have hs : ¬ (rows ≠ 0 ∧ some p = none) := fun h => by cases h.2
      rw [if_neg hs] at h
      cases h
  · rintro ⟨_, hw, hy⟩
    cases hy
    exact .inl (onSecond_eq_error.mpr ⟨hw, rfl⟩)

theorem Question.reconcileChoices_eq_error {q : Question} {y : Question × Connection} :
    Question.reconcileChoices plan (q, c) = (.error e, y) ↔
      ∃ choices c', (Choice.reconciler plan).reconcile q.id (q.choices, c) =
        (.error e, (choices, c')) ∧ y = ({ q with choices }, c') := by
  dsimp only [Question.reconcileChoices]
  rcases (Choice.reconciler plan).reconcile q.id (q.choices, c) with ⟨f | ids, choices, c₁⟩
  · simp only [Except.map, Prod.mk.injEq, Except.error.injEq]
    constructor
    · rintro ⟨rfl, h⟩
      exact ⟨choices, c₁, ⟨rfl, rfl, rfl⟩, h.symm⟩
    · rintro ⟨_, _, ⟨rfl, rfl, rfl⟩, rfl⟩
      exact ⟨rfl, rfl⟩
  · simp [Except.map]

theorem Store.reconcileQuestions_eq_error {cond : Conditions} {v : Quiz} {y : Quiz × Connection} :
    Store.reconcileQuestions cond (v, c) = (.error e, y) ↔
      ∃ questions c', (Question.reconciler cond.plan).reconcile v.id (v.questions, c) =
        (.error e, (questions, c')) ∧ y = ({ v with questions }, c') := by
  dsimp only [Store.reconcileQuestions]
  rcases (Question.reconciler cond.plan).reconcile v.id (v.questions, c) with
    ⟨f | ids, questions, c₁⟩
  · simp only [Except.map, Prod.mk.injEq, Except.error.injEq]
    constructor
    · rintro ⟨rfl, h⟩
      exact ⟨questions, c₁, ⟨rfl, rfl, rfl⟩, h.symm⟩
    · rintro ⟨_, _, ⟨rfl, rfl, rfl⟩, rfl⟩
      exact ⟨rfl, rfl⟩
  · simp [Except.map]

/-! ## Where reconciliations of stored children end -/

/-- Choices are reconciled by statements about choices. -/
theorem Choice.failsItself_endsOn {p : Int} {x y : List Choice × Connection}
    (h : (Choice.reconciler plan).FailsItself p x e y) : y.2.EndsOn .choices := by
  refine h.after (P := Connection.EndsOn .choices) _ ?_ ?_ ?_ ?_ ?_
  · intro _ _ _ _ h
    dsimp only [Choice.reconciler] at h
    exact Connection.query_endsOn h
  · intro _ _ _ h
    cases h
  · intro _ _ _ h
    dsimp only [Choice.reconciler] at h
    exact assigning_endsOn (fun hi => Connection.insert_endsOn hi) h
  · intro p x r y h
    obtain ⟨q, c⟩ := x
    dsimp only [Choice.reconciler] at h
    obtain ⟨-, rfl⟩ := Prod.mk.inj h
    exact Connection.write_endsOn rfl rfl
  · intro _ _ _ _ h
    exact Connection.write_endsOn rfl h

/-- Questions are reconciled by statements about questions, but for what is below them. -/
theorem Question.failsItself_endsOn {p : Int} {x y : List Question × Connection}
    (h : (Question.reconciler plan).FailsItself p x e y) : y.2.EndsOn .questions := by
  refine h.after (P := Connection.EndsOn .questions) _ ?_ ?_ ?_ ?_ ?_
  · intro _ _ _ _ h
    dsimp only [Question.reconciler] at h
    exact Connection.query_endsOn h
  · intro _ _ _ h
    cases h
  · intro _ _ _ h
    dsimp only [Question.reconciler] at h
    exact assigning_endsOn (fun hi => Connection.insert_endsOn hi) h
  · intro p x r y h
    obtain ⟨q, c⟩ := x
    rcases r with f | n
    · obtain ⟨c', hw, rfl⟩ := Question.update_eq_error.mp h
      exact Connection.write_endsOn rfl hw
    · obtain ⟨c', hw, rfl⟩ := Question.update_eq_ok.mp h
      exact Connection.write_endsOn rfl hw
  · intro _ _ _ _ h
    exact Connection.write_endsOn rfl h

end TriviaStore
