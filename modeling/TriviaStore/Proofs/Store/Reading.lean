import TriviaStore.Proofs.Connection.Success
import TriviaStore.Proofs.Tables.Lookup
import TriviaStore.Store.Read

/-! # What is read

Undisturbed reading gives what the rows of the store stand for: a question with the choices whose
rows name it, and a quiz with the questions whose rows name it, each in the order of the rows.
-/

namespace TriviaStore

open Attempt

variable {c : Connection} {t : Tables} {i : Int}

/-- The choice that a row stands for. -/
def ChoiceRow.choice (r : ChoiceRow) : Choice := .ofRecord r.record

/-- The choices whose rows name a question. -/
def Tables.choicesBelow (t : Tables) (i : Int) : List Choice :=
  (t.choices.filter (·.questionId == i)).map ChoiceRow.choice

/-- The question that a row stands for. -/
def QuestionRow.question (t : Tables) (r : QuestionRow) : Question :=
  .ofRecord r.record (t.choicesBelow r.id)

/-- The questions whose rows name a quiz. -/
def Tables.questionsBelow (t : Tables) (i : Int) : List Question :=
  (t.questions.filter (·.quizId == i)).map (QuestionRow.question t)

namespace Store

/-- An undisturbed reading does not change the session's tables. -/
def Reads {α : Type} (a : Attempt Connection α) (c : Connection) (x : α) : Prop :=
  ∃ c', a c = (.ok x, c') ∧ c'.working = c.working

variable {α β : Type}

theorem reads_pure (x : α) : Reads (pure x) c x := ⟨c, rfl, rfl⟩

theorem reads_query {table : Table} {read : Tables → Except Failure α} {x : α}
    (h : read c.working = .ok x) : Reads (Connection.query .quiet table read) c x :=
  ⟨{ c with issued := c.issued ++ [.select table] }, by rw [← h]; rfl, rfl⟩

theorem Reads.bind {a : Attempt Connection α} {f : α → Attempt Connection β} {x : α} {y : β}
    (ha : Reads a c x) (hf : ∀ c', c'.working = c.working → Reads (f x) c' y) :
    Reads (a >>= f) c y := by
  obtain ⟨c₁, ha, hw₁⟩ := ha
  obtain ⟨c₂, hf, hw₂⟩ := hf c₁ hw₁
  exact ⟨c₂, by rw [bind_of_ok ha, hf], hw₂.trans hw₁⟩

theorem Reads.wrapping {a : Attempt Connection α} {m : Connection → String} {x : α}
    (h : Reads a c x) : Reads (a.wrapping m) c x := by
  obtain ⟨c', ha, hw⟩ := h
  exact ⟨c', wrapping_eq_ok.mpr ha, hw⟩

/-- Reading in a session of its own is reading what is committed. -/
theorem Reads.reading {a : Attempt Connection α} {x : α} (h : Reads a c.refresh x) :
    (Connection.reading a c).1 = .ok x := by
  obtain ⟨c', ha, _⟩ := h
  simp only [Connection.reading, ha]

theorem reads_collect {f : α → Attempt Connection β} {g : Tables → α → β} {xs : List α}
    (hf : ∀ x ∈ xs, ∀ c', c'.working = c.working → Reads (f x) c' (g c'.working x)) :
    Reads (collect f xs) c (xs.map (g c.working)) := by
  induction xs generalizing c with
  | nil => exact reads_pure []
  | cons x xs ih =>
    have hx := hf x List.mem_cons_self c rfl
    refine hx.bind fun c₁ hw₁ => ?_
    have hxs := ih (c := c₁) fun y hy c' hw' => hf y (List.mem_cons_of_mem _ hy) c' (hw'.trans hw₁)
    rw [hw₁] at hxs
    exact hxs.bind fun c₂ _ => reads_pure _

theorem reads_loadChoices (h : fits i = true) :
    Reads (loadChoices .quiet i) c (c.working.choicesBelow i) :=
  (reads_query (Tables.choicesOf_ok h)).bind fun _ _ => reads_pure _

theorem reads_loadQuestion {r : QuestionRow} (h : fits r.id = true) :
    Reads (loadQuestion .quiet r) c (r.question c.working) :=
  (reads_loadChoices h).bind fun _ _ => reads_pure _

theorem reads_loadQuestions (hc : c.working.Sound) (h : fits i = true) :
    Reads (loadQuestions .quiet i) c (c.working.questionsBelow i) := by
  refine (reads_query (Tables.questionsOf_ok h)).bind fun c₁ hw => ?_
  have hall : Reads (collect (loadQuestion .quiet) (c.working.questions.filter (·.quizId == i))) c₁
      ((c.working.questions.filter (·.quizId == i)).map (QuestionRow.question c₁.working)) :=
    reads_collect fun r hr c' hw' =>
      reads_loadQuestion (hc.questions_fit r (List.mem_filter.mp hr).1)
  rwa [hw] at hall

theorem reads_loadQuiz {record : QuizRecord} (hc : c.working.Sound) (h : fits record.id = true) :
    Reads (loadQuiz .quiet record) c (.ofRecord record (c.working.questionsBelow record.id)) :=
  (reads_loadQuestions hc h).bind fun _ _ => reads_pure _

/-- Getting a stored quiz gives what its row and the rows below stand for. -/
theorem getQuiz_of_row {r : QuizRow} {record : QuizRecord} (hc : c.committed.Sound)
    (hr : c.committed.quizAt i = some r) (hrec : r.record = .ok record) (hid : record.id = i) :
    (getQuiz .quiet i c).1 = .ok (.ofRecord record (c.committed.questionsBelow i)) := by
  have hi : fits i = true := by
    have hm := hc.quizzes_fit r (mem_of_rowAt hr)
    rwa [key_of_rowAt hr] at hm
  have hq : c.refresh.working.quiz? i = .ok (some record) := by
    refine Except.bind_eq_ok.mpr ⟨(), Tables.checkFit_singleton hi, ?_⟩
    have hf : c.refresh.working.quizzes.find? (·.id == i) = some r := hr
    rw [hf]
    dsimp only
    rw [hrec]
    rfl
  refine Reads.reading (Reads.wrapping ((reads_query hq).bind fun c₁ hw => ?_))
  have hl : Reads (loadQuiz .quiet record) c₁
      (.ofRecord record (c₁.working.questionsBelow record.id)) :=
    reads_loadQuiz (hw ▸ hc) (hid ▸ hi)
  rwa [hw, hid] at hl

/-! ## Readings that succeed -/

/-- Whatever the plan, what a reading gives if it succeeds is told by the session's tables, which it
does not change. -/
def Tells {α : Type} (a : Attempt Connection α) (f : Tables → α) : Prop :=
  ∀ c x c', a c = (.ok x, c') → x = f c.working ∧ c'.working = c.working

variable {plan : Plan Statement}

theorem tells_pure (x : α) : Tells (pure x) fun _ => x := by
  intro c y c' h
  cases h
  exact ⟨rfl, rfl⟩

theorem Tells.bind {a : Attempt Connection α} {b : α → Attempt Connection β} {f : Tables → α}
    {g : α → Tables → β} (ha : Tells a f) (hb : ∀ x, Tells (b x) (g x)) :
    Tells (a >>= b) fun t => g (f t) t := by
  intro c y c' h
  obtain ⟨x, c₁, hx, h⟩ := bind_eq_ok.mp h
  obtain ⟨rfl, hw₁⟩ := ha c x c₁ hx
  obtain ⟨hy, hw₂⟩ := hb _ c₁ y c' h
  rw [hw₁] at hy
  exact ⟨hy, hw₂.trans hw₁⟩

theorem tells_query {table : Table} {read : Tables → Except Failure α} {f : Tables → α}
    (h : ∀ t x, read t = .ok x → x = f t) : Tells (Connection.query plan table read) f := by
  intro c x c' hq
  obtain ⟨hr, hw⟩ := Connection.query_ok hq
  exact ⟨h _ x hr, hw⟩

theorem tells_collect {a : α → Attempt Connection β} {f : α → Tables → β}
    (ha : ∀ x, Tells (a x) (f x)) (xs : List α) : Tells (collect a xs) fun t => xs.map (f · t) := by
  induction xs with
  | nil => exact tells_pure []
  | cons x xs ih => exact (ha x).bind fun y => ih.bind fun ys => tells_pure (y :: ys)

theorem tells_loadChoices (i : Int) : Tells (loadChoices plan i) fun t => t.choicesBelow i := by
  refine (tells_query (f := fun t => t.choices.filter (·.questionId == i)) ?_).bind
    fun rows => tells_pure _
  intro t rows h
  obtain ⟨_, _, h⟩ := Except.bind_eq_ok.mp h
  exact (Except.pure_eq_ok.mp h).symm

theorem tells_loadQuestion (r : QuestionRow) :
    Tells (loadQuestion plan r) fun t => r.question t :=
  (tells_loadChoices r.id).bind fun _ => tells_pure _

theorem tells_loadQuestions (i : Int) :
    Tells (loadQuestions plan i) fun t => t.questionsBelow i := by
  refine (tells_query (f := fun t => t.questions.filter (·.quizId == i)) ?_).bind
    fun rows => tells_collect tells_loadQuestion rows
  intro t rows h
  obtain ⟨_, _, h⟩ := Except.bind_eq_ok.mp h
  exact (Except.pure_eq_ok.mp h).symm

theorem id_of_record {r : QuizRow} {record : QuizRecord} (h : r.record = .ok record) :
    record.id = r.id := by
  unfold QuizRow.record at h
  split at h
  · cases h
    rfl
  · split at h
    · cases h
    · cases h
      rfl

theorem id_of_quiz? {record : QuizRecord} (h : t.quiz? i = .ok (some record)) : record.id = i := by
  obtain ⟨_, _, h⟩ := Except.bind_eq_ok.mp h
  split at h
  · cases h
  · rename_i r hr
    have hid : r.id = i := key_of_rowAt hr
    obtain ⟨record', hrec, h⟩ := Except.map_eq_ok.mp h
    cases h
    exact (id_of_record hrec).trans hid

/-- A quiz that was got has the id asked for, and what is below it is told by the committed rows. -/
theorem getQuiz_ok {v : Quiz} (h : (getQuiz plan i c).1 = .ok v) :
    v.id = i ∧ v.questions = c.committed.questionsBelow i := by
  unfold getQuiz Connection.reading at h
  dsimp only at h
  obtain ⟨record?, c₁, hq, h⟩ := bind_eq_ok.mp (wrapping_eq_ok.mp (Prod.ext h rfl))
  obtain ⟨hr, hw⟩ := Connection.query_ok hq
  cases record? with
  | none => cases h
  | some record =>
    have hid : record.id = i := id_of_quiz? hr
    obtain ⟨questions, c₂, hl, h⟩ := bind_eq_ok.mp h
    obtain ⟨rfl, _⟩ := tells_loadQuestions record.id c₁ questions c₂ hl
    cases h
    refine ⟨hid, ?_⟩
    rw [hw, hid]
    rfl

end Store

end TriviaStore
