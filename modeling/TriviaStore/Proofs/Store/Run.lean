import TriviaStore.Proofs.Tables.Sound
import TriviaStore.Proofs.Time.Timestamp

/-! # Runs

A run is a series of calls, each made on its own conditions. Every store that a run leaves behind is
sound, however its calls end, and each of its quizzes was created by one call of the run: it was not
stored before that call and has been stored ever since, with the time that the clock showed then.
-/

namespace TriviaStore

/-- A call that may change the store, and what it meets. -/
structure Call where
  conditions : Conditions
  operation : Operation

namespace Tables

variable {t : Tables} {clock : Instant} {call : Call} {calls : List Call}

/-- The rows that are committed after a run. -/
def afterAll (calls : List Call) (t : Tables) : Tables :=
  calls.foldl (fun t call => call.operation.after call.conditions t) t

@[simp] theorem afterAll_nil : t.afterAll [] = t := rfl

@[simp] theorem afterAll_cons :
    t.afterAll (call :: calls) = (call.operation.after call.conditions t).afterAll calls := rfl

theorem reachable_afterAll (ht : Reachable t) : Reachable (t.afterAll calls) := by
  induction calls generalizing t with
  | nil => exact ht
  | cons call calls ih => exact ih (.step call.conditions call.operation ht)

/-! ## The origin of quizzes -/

/-- Statements on what is below the quizzes are of no concern to what is told of the quizzes alone. -/
theorem closedBelow_of_quizzes {P : Tables → Prop}
    (hP : ∀ {t t' : Tables}, P t → t'.quizzes = t.quizzes → P t') : ClosedBelow P where
  insertQuestion ht h := by
    obtain ⟨_, _, _, _, _, _, _, rfl⟩ := insertQuestion_eq_ok.mp h
    exact hP ht rfl
  updateQuestion ht h := by
    obtain ⟨_, ⟨_, _, rfl⟩ | ⟨_, _, _, _, _, _, _, _, rfl⟩⟩ := updateQuestion_eq_ok.mp h <;>
      exact hP ht rfl
  deleteQuestion ht h := by
    obtain ⟨_, ⟨_, _, rfl⟩ | ⟨_, _, rfl⟩⟩ := deleteQuestion_eq_ok.mp h <;> exact hP ht rfl
  insertChoice ht h := by
    obtain ⟨_, _, _, _, _, _, _, _, rfl⟩ := insertChoice_eq_ok.mp h
    exact hP ht rfl
  updateChoice ht h := by
    obtain ⟨_, ⟨_, _, rfl⟩ | ⟨_, _, _, _, _, _, rfl⟩⟩ := updateChoice_eq_ok.mp h <;> exact hP ht rfl
  deleteChoice ht h := by
    obtain ⟨_, ⟨_, _, rfl⟩ | ⟨_, _, rfl⟩⟩ := deleteChoice_eq_ok.mp h <;> exact hP ht rfl

def HasQuiz (i : Int) (t : Tables) : Prop := ∃ r ∈ t.quizzes, r.id = i

/-- Quizzes have only been added, at the time of a clock, and keep their creation times. -/
structure Grown (clock : Instant) (t t' : Tables) : Prop where
  stays : ∀ i, t.HasQuiz i → t'.HasQuiz i
  origin : ∀ r' ∈ t'.quizzes, (∃ r ∈ t.quizzes, r.id = r'.id ∧ r'.createdAt = r.createdAt) ∨
    ¬ t.HasQuiz r'.id ∧ Moment.InCalendar clock ∧ r'.createdAt = some clock.toMillis

theorem Grown.refl (clock : Instant) (t : Tables) : Grown clock t t where
  stays _ h := h
  origin r hr := .inl ⟨r, hr, rfl, rfl⟩

theorem Grown.closed (clock : Instant) (t : Tables) : ClosedAt clock (Grown clock t) where
  toClosedBelow := closedBelow_of_quizzes fun h he => ⟨fun i hi => by
    obtain ⟨r, hr, hid⟩ := h.stays i hi
    exact ⟨r, he ▸ hr, hid⟩, fun r hr => h.origin r (he ▸ hr)⟩
  insertQuiz := by
    intro t₁ t₂ now title slug description id hnow h hi
    obtain ⟨_, title', slug', _, _, _, hid, _, rfl⟩ := insertQuiz_eq_ok.mp hi
    refine ⟨fun i hq => ?_, fun r hr => ?_⟩
    · obtain ⟨r, hr, he⟩ := h.stays i hq
      exact ⟨r, List.mem_append_left _ hr, he⟩
    · rcases List.mem_append.mp hr with hr | hr
      · exact h.origin r hr
      obtain rfl := List.mem_singleton.mp hr
      refine .inr ⟨fun hq => ?_, (Moment.now?_eq_some hnow).1, ?_⟩
      · obtain ⟨r, hr, he⟩ := h.stays _ hq
        have hlt : r.id < freshId (t₁.quizzes.map QuizRow.id) := lt_fresh_of_mem hr
        rw [← hid, he] at hlt
        exact Int.lt_irrefl _ hlt
      · rw [Moment.toMillis_now? hnow]
  updateQuiz := by
    intro t₁ t₂ id title slug description n h hu
    obtain ⟨_, ⟨_, _, rfl⟩ | ⟨_, title', slug', description', _, _, _, _, _, rfl⟩⟩ :=
      updateQuiz_eq_ok.mp hu
    · exact h
    refine ⟨fun i hq => ?_, fun r' hr' => ?_⟩
    · obtain ⟨r, hr, he⟩ := h.stays i hq
      refine ⟨_, List.mem_map_of_mem hr, ?_⟩
      split <;> exact he
    · obtain ⟨r, hr, rfl⟩ := List.mem_map.mp hr'
      have hr := h.origin r hr
      split <;> exact hr

theorem grown_after (cond : Conditions) (op : Operation) (t : Tables) :
    Grown cond.clock t (op.after cond t) :=
  (op.keeps_run (Grown.closed cond.clock t) (.onto t)
    ⟨Grown.refl cond.clock t, Grown.refl cond.clock t⟩).committed

theorem hasQuiz_afterAll {i : Int} (h : t.HasQuiz i) : (t.afterAll calls).HasQuiz i := by
  induction calls generalizing t with
  | nil => exact h
  | cons call calls ih => exact ih ((grown_after call.conditions call.operation t).stays i h)

/-- The quiz of a row was created by a call of a run: it is stored after all that include the call,
and was stored before by none that do not. -/
def CreatedBy (t : Tables) (calls : List Call) (r : QuizRow) (call : Call) : Prop :=
  ∃ n : Nat, calls[n]? = some call ∧ (∀ k, (t.afterAll (calls.take k)).HasQuiz r.id ↔ n < k) ∧
    Moment.InCalendar call.conditions.clock ∧
    r.createdAt = some call.conditions.clock.toMillis

theorem origin_afterAll {r : QuizRow} (hr : r ∈ (t.afterAll calls).quizzes) :
    (∃ r₀ ∈ t.quizzes, r₀.id = r.id ∧ r.createdAt = r₀.createdAt) ∨
      ∃ call, t.CreatedBy calls r call := by
  induction calls generalizing t with
  | nil => exact .inl ⟨r, hr, rfl, rfl⟩
  | cons call calls ih =>
    have hg := grown_after call.conditions call.operation t
    rcases ih hr with ⟨r₁, hr₁, hid, hc⟩ | ⟨call', n, hn, hk, hcal, hc⟩
    · rcases hg.origin r₁ hr₁ with ⟨r₀, hr₀, hid₀, hc₀⟩ | ⟨hnone, hcal, hc₁⟩
      · exact .inl ⟨r₀, hr₀, hid₀.trans hid, hc.trans hc₀⟩
      -- The first call has created the quiz, and no later one takes it away.
      refine .inr ⟨call, 0, rfl, fun k => ?_, hcal, hc.trans hc₁⟩
      rw [hid] at hnone
      cases k with
      | zero => simpa using hnone
      | succ k => simpa using hasQuiz_afterAll ⟨r₁, hr₁, hid⟩
    · refine .inr ⟨call', n + 1, hn, fun k => ?_, hcal, hc⟩
      cases k with
      | zero =>
        have hnone : ¬ t.HasQuiz r.id := fun h => Nat.not_lt_zero n ((hk 0).mp (hg.stays _ h))
        simpa using hnone
      | succ k => simpa using hk k

/-! ## What runs keep -/

/-- What holds of the rows that a run leaves behind, starting from none. -/
structure SoundAfter (calls : List Call) (t : Tables) : Prop extends t.Sound where
  /-- No quiz is without the time of its creation, the one column that could be empty. -/
  created_by : ∀ r ∈ t.quizzes, ∃ call, Tables.empty.CreatedBy calls r call

theorem soundAfter_afterAll (calls : List Call) : (Tables.empty.afterAll calls).SoundAfter calls where
  toSound := (reachable_afterAll .empty).sound
  created_by r hr := by
    rcases origin_afterAll hr with ⟨_, hr₀, _⟩ | h
    · cases hr₀
    · exact h

end Tables

end TriviaStore
