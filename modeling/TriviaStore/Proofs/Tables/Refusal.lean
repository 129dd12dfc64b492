import TriviaStore.Proofs.Store.Listing
import TriviaStore.Proofs.Tables.Sound

/-! # What the tables refuse

The tables refuse a statement that breaks a rule, one that needs an id when none is left, and one that
binds an integer outside of 64 bits. The last is not told in the driver's own words, and it can be traced
to an integer that was bound. Of sound tables every row can be read.
-/

namespace TriviaStore

/-- The number fits into 64 bits, or it is among those that need not. -/
def Fitting (ns : List Int) (n : Int) : Prop := fits n = true ∨ n ∈ ns

theorem Fitting.of_fits {ns : List Int} {n : Int} (h : fits n = true) : Fitting ns n := .inl h

theorem Fitting.of_mem {ns : List Int} {n : Int} (h : n ∈ ns) : Fitting ns n := .inr h

namespace Tables

/-- What the tables refuse a statement with, of whose integers only some may not fit. -/
inductive Refusal (ns : List Int) : Failure → Prop
  | violated (rule : Violation) : Refusal ns (.driver (.violation rule))
  | full : Refusal ns (.driver (.operational "database or disk is full"))
  | unfit {n : Int} (mem : n ∈ ns) (unfit : fits n = false) : Refusal ns .overflow

/-- If there is no result, then because of a refusal. -/
def Refuses {α : Type} (ns : List Int) (x : Except Failure α) : Prop :=
  ∀ e, x = .error e → Refusal ns e

section Laws

variable {α β : Type} {ns : List Int} {x : Except Failure α} {f : α → Except Failure β}

theorem refuses_ok (a : α) : Refuses ns (.ok a) := nofun

theorem Refuses.bind (hx : Refuses ns x) (hf : ∀ a, x = .ok a → Refuses ns (f a)) :
    Refuses ns (x >>= f) := by
  intro e h
  cases x with
  | error e' =>
    cases h
    exact hx e rfl
  | ok a => exact hf a rfl e h

theorem Refuses.map {g : α → β} (hx : Refuses ns x) : Refuses ns (x.map g) := by
  intro e h
  cases x with
  | error e' =>
    cases h
    exact hx e rfl
  | ok a => cases h

theorem refuses_ite {p : Prop} [Decidable p] {x y : Except Failure α} (hx : Refuses ns x)
    (hy : Refuses ns y) : Refuses ns (if p then x else y) := by
  split
  · exact hx
  · exact hy

theorem checkFit_refuses {l : List Int} (h : ∀ n ∈ l, Fitting ns n) : Refuses ns (checkFit l) := by
  intro e he
  unfold checkFit at he
  split at he
  · cases he
  · rename_i hl
    cases he
    simp only [List.all_eq_true, not_forall] at hl
    obtain ⟨n, hn, hfit⟩ := hl
    exact .unfit ((h n hn).resolve_left hfit) (Bool.eq_false_iff.mpr hfit)

theorem require_refuses (column : Column) (a : Option α) : Refuses ns (require column a) := by
  intro e he
  cases a <;> cases he
  exact .violated _

theorem refuseIf_refuses (broken : Bool) (rule : Violation) : Refuses ns (refuseIf broken rule) := by
  intro e he
  unfold refuseIf at he
  split at he <;> cases he
  exact .violated rule

theorem newId_refuses (ids : List Int) : Refuses ns (newId ids) := by
  intro e he
  unfold newId at he
  split at he <;> cases he
  exact .full

end Laws

/-! ## Statements -/

variable {t : Tables} {ns : List Int} {id : Int}

theorem insertQuiz_refuses (title slug description : Option String) {createdAt : Int}
    (h : Fitting ns createdAt) : Refuses ns (t.insertQuiz title slug description createdAt) := by
  refine (checkFit_refuses (by simpa using h)).bind fun _ _ => ?_
  refine (require_refuses _ _).bind fun _ _ => (require_refuses _ _).bind fun _ _ => ?_
  exact (refuseIf_refuses _ _).bind fun _ _ => (newId_refuses _).bind fun _ _ => refuses_ok _

theorem updateQuiz_refuses (title slug description : Option String) (h : Fitting ns id) :
    Refuses ns (t.updateQuiz id title slug description) := by
  refine (checkFit_refuses (by simpa using h)).bind fun _ _ => refuses_ite ?_ (refuses_ok _)
  refine (require_refuses _ _).bind fun _ _ => (require_refuses _ _).bind fun _ _ => ?_
  exact (require_refuses _ _).bind fun _ _ => (refuseIf_refuses _ _).bind fun _ _ => refuses_ok _

theorem insertQuestion_refuses {quizId : Int} (text imageUrl : Option String) {position : Option Int}
    (hq : Fitting ns quizId) (hp : ∀ n ∈ position, Fitting ns n) :
    Refuses ns (t.insertQuestion quizId text imageUrl position) := by
  refine (checkFit_refuses ?_).bind fun _ _ => (require_refuses _ _).bind fun _ _ =>
    (refuseIf_refuses _ _).bind fun _ _ => (newId_refuses _).bind fun _ _ => refuses_ok _
  simpa using ⟨hq, hp⟩

theorem updateQuestion_refuses {parent : Option Int} (text imageUrl : Option String)
    {position : Option Int} (h : Fitting ns id) (hq : ∀ n ∈ parent, Fitting ns n)
    (hp : ∀ n ∈ position, Fitting ns n) :
    Refuses ns (t.updateQuestion id parent text imageUrl position) := by
  refine (checkFit_refuses ?_).bind fun _ _ => refuses_ite ?_ (refuses_ok _)
  · intro n hn
    simp only [List.mem_append, List.mem_cons, Option.mem_toList] at hn
    rcases hn with hn | rfl | hn
    · exact hp n hn
    · exact h
    · exact hq n hn
  · exact (require_refuses _ _).bind fun _ _ => (require_refuses _ _).bind fun _ _ =>
      (require_refuses _ _).bind fun _ _ => refuses_ok _

theorem deleteQuestion_refuses (h : Fitting ns id) : Refuses ns (t.deleteQuestion id) :=
  (checkFit_refuses (by simpa using h)).bind fun _ _ => refuses_ite (refuses_ok _) (refuses_ok _)

theorem insertChoice_refuses {questionId : Int} (text : Option String) (correct : Option Bool)
    (h : Fitting ns questionId) : Refuses ns (t.insertChoice questionId text correct) := by
  refine (checkFit_refuses (by simpa using h)).bind fun _ _ => (require_refuses _ _).bind fun _ _ => ?_
  exact (require_refuses _ _).bind fun _ _ => (refuseIf_refuses _ _).bind fun _ _ =>
    (newId_refuses _).bind fun _ _ => refuses_ok _

theorem updateChoice_refuses {parent : Option Int} (text : Option String) (correct : Option Bool)
    (h : Fitting ns id) (hq : ∀ n ∈ parent, Fitting ns n) :
    Refuses ns (t.updateChoice id parent text correct) := by
  refine (checkFit_refuses ?_).bind fun _ _ => refuses_ite ?_ (refuses_ok _)
  · simpa using ⟨h, hq⟩
  · exact (require_refuses _ _).bind fun _ _ => (require_refuses _ _).bind fun _ _ => refuses_ok _

theorem deleteChoice_refuses (h : Fitting ns id) : Refuses ns (t.deleteChoice id) :=
  (checkFit_refuses (by simpa using h)).bind fun _ _ => refuses_ite (refuses_ok _) (refuses_ok _)

/-! ## Queries -/

theorem Sound.allQuizzes (h : t.Sound) : t.allQuizzes = .ok (t.quizzes.map QuizRow.told) :=
  mapM_of_ok fun _ hr => h.record hr

theorem quiz?_refuses (ht : t.Sound) (h : Fitting ns id) : Refuses ns (t.quiz? id) := by
  refine (checkFit_refuses (by simpa using h)).bind fun _ _ => ?_
  split
  · exact refuses_ok _
  · rename_i r hr
    rw [ht.record (List.mem_of_find?_eq_some hr)]
    exact refuses_ok _

theorem questionsOf_refuses (h : Fitting ns id) : Refuses ns (t.questionsOf id) :=
  (checkFit_refuses (by simpa using h)).bind fun _ _ => refuses_ok _

theorem question?_refuses (h : Fitting ns id) : Refuses ns (t.question? id) :=
  (checkFit_refuses (by simpa using h)).bind fun _ _ => refuses_ok _

theorem choicesOf_refuses (h : Fitting ns id) : Refuses ns (t.choicesOf id) :=
  (checkFit_refuses (by simpa using h)).bind fun _ _ => refuses_ok _

end Tables

end TriviaStore
