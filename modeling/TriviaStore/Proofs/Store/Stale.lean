import TriviaStore.Proofs.Store.Atomicity
import TriviaStore.Proofs.Store.Ownership
import TriviaStore.Proofs.Store.Reading
import TriviaStore.Proofs.Store.Run

/-! # Stale copies

Everything in a quiz that was read carries the id of a row. Saving the quiz after other calls fails,
and changes nothing, when one of these rows is not where it was. It is not noticed that a row was
deleted if its id has been given to another row in the same place since.
-/

namespace TriviaStore

variable {plan : Plan Statement} {cond : Conditions} {c d : Connection} {v v' : Quiz} {t : Tables}
  {i : Int} {calls : List Call}

/-- A question of the quiz is not stored under it, or a choice not under its question. -/
def Quiz.Vanished (v : Quiz) (t : Tables) : Prop :=
  ∃ q ∈ v.questions, (∀ r ∈ t.questions, r.id = q.id → r.quizId ≠ v.id) ∨
    ∃ x ∈ q.choices, ∀ r ∈ t.choices, r.id = x.id → r.questionId ≠ q.id

instance : Decidable (v.Vanished t) :=
  inferInstanceAs (Decidable (∃ q ∈ v.questions, _ ∨ ∃ x ∈ q.choices, _))

/-- Everything below the quiz has an id. -/
structure Quiz.Identified (v : Quiz) : Prop where
  questions : ∀ q ∈ v.questions, q.id ≠ 0
  choices : ∀ q ∈ v.questions, ∀ x ∈ q.choices, x.id ≠ 0

theorem Store.identified_of_getQuiz (hc : c.committed.Sound)
    (h : (getQuiz plan i c).1 = .ok v) : v.Identified := by
  obtain ⟨_, hbelow⟩ := getQuiz_ok h
  constructor
  · intro q hq
    rw [hbelow] at hq
    obtain ⟨r, hr, rfl⟩ := List.mem_map.mp hq
    have hpos : 0 < r.id := hc.questions_pos r (List.mem_filter.mp hr).1
    exact Int.ne_of_gt hpos
  · intro q hq x hx
    rw [hbelow] at hq
    obtain ⟨r, _, rfl⟩ := List.mem_map.mp hq
    obtain ⟨s, hs, rfl⟩ := List.mem_map.mp hx
    have hpos : 0 < s.id := hc.choices_pos s (List.mem_filter.mp hs).1
    exact Int.ne_of_gt hpos

/-- No id is given on the way where everything has one, so every id has to be found. -/
theorem Quiz.Identified.not_vanished (hv : v.Identified) (ho : v.Owns v' t) : ¬ v.Vanished t := by
  rintro ⟨q, hq, hgone⟩
  obtain ⟨k, hk⟩ := List.mem_iff_getElem?.mp hq
  rcases hgone with hgone | ⟨x, hx, hgone⟩
  · rcases ho.questions k q hk (hv.questions q hq) with ⟨r, hr, hid, hp⟩ | ⟨hgiven, _⟩
    · exact hgone r hr hid hp
    · obtain ⟨_, _, d, _, hd, _, h₀, _⟩ := hgiven
      exact hv.questions d (List.mem_of_getElem? hd) h₀
  · obtain ⟨l, hl⟩ := List.mem_iff_getElem?.mp hx
    rcases ho.choices k l q x hk (hv.questions q hq) hl (hv.choices q hq x hx) with
      ⟨r, hr, hid, hp⟩ | ⟨hgiven, _⟩
    · exact hgone r hr hid hp
    · obtain ⟨_, _, e, _, y, _, _, he, _, _, hy, _, h₀ | h₀, _⟩ := hgiven
      · exact hv.questions e (List.mem_of_getElem? he) h₀
      · exact hv.choices e (List.mem_of_getElem? he) y (List.mem_of_getElem? hy) h₀

namespace Store

/-- Saving a quiz that was read fails once something in it has vanished. -/
theorem updateQuiz_detects (ht : Reachable c.committed) (hv : (getQuiz plan i c).1 = .ok v)
    (hd : d.committed = c.committed.afterAll calls) (hgone : v.Vanished d.committed) :
    ∃ e y, updateQuiz cond (v, d) = (.error e, y) ∧ y.2.committed = d.committed := by
  have hs : d.committed.Sound := by
    rw [hd]
    exact (Tables.reachable_afterAll ht).sound
  rcases h : updateQuiz cond (v, d) with ⟨e | _, v', d'⟩
  · exact ⟨e, (v', d'), rfl, (updateQuiz_onFailure (v, d) e (v', d') ⟨rfl, trivial⟩ h).committed⟩
  · exact absurd hgone ((identified_of_getQuiz ht.sound hv).not_vanished (updateQuiz_owned hs h))

/-! ## A question deleted and replaced -/

/-- A quiz with one question, as it is stored first. -/
def lone : Quiz where
  id := 1
  title := some "Capitals"
  slug := some "capitals"
  description := some ""
  createdAt := some ⟨0⟩
  questions := [{ Question.new "France?" 10 [] with id := 1, quizId := 1 }]

def emptying : Call := ⟨.calm, .write (.updateQuiz { lone with questions := [] })⟩

/-- The new question is given the id of the one deleted before. -/
def refilling : Call :=
  ⟨.calm, .write (.createQuestion { Question.new "Italy?" 20 [] with quizId := 1 })⟩

def holdingLone : Tables := Tables.empty.afterAll [⟨.calm, .write (.createQuiz lone)⟩]

theorem reachable_holdingLone : Reachable holdingLone := Tables.reachable_afterAll .empty

theorem getQuiz_lone : (getQuiz .quiet 1 (.onto holdingLone)).1 = .ok lone := by decide +kernel

theorem updateQuiz_detects_emptied :
    ∃ e y, updateQuiz .calm (lone, .onto (holdingLone.afterAll [emptying])) = (.error e, y) ∧
      y.2.committed = holdingLone.afterAll [emptying] :=
  updateQuiz_detects (c := .onto holdingLone) (d := .onto (holdingLone.afterAll [emptying]))
    reachable_holdingLone getQuiz_lone rfl (by decide +kernel)

/-- Every call of a run succeeds. -/
def AllSucceed : List Call → Tables → Prop
  | [], _ => True
  | call :: calls, t => (call.operation.run call.conditions (.onto t)).1 = .ok () ∧
      AllSucceed calls (call.operation.after call.conditions t)

/-- That something vanished in the course of a run need not be detected after it. -/
theorem not_always_detected : ¬ ∀ (plan : Plan Statement) (cond : Conditions) (c d : Connection)
    (i : Int) (v : Quiz) (calls : List Call), Reachable c.committed →
      (getQuiz plan i c).1 = .ok v → AllSucceed calls c.committed →
      d.committed = c.committed.afterAll calls →
      (∃ k, v.Vanished (c.committed.afterAll (calls.take k))) →
      ∃ e y, updateQuiz cond (v, d) = (.error e, y) ∧ y.2.committed = d.committed := by
  intro hall
  have hrun : AllSucceed [emptying, refilling] holdingLone :=
    ⟨by decide +kernel, by decide +kernel, trivial⟩
  have hgone : lone.Vanished (holdingLone.afterAll [emptying]) := by decide +kernel
  obtain ⟨e, y, h, _⟩ := hall .quiet .calm (.onto holdingLone)
    (.onto (holdingLone.afterAll [emptying, refilling])) 1 lone [emptying, refilling]
    reachable_holdingLone getQuiz_lone hrun rfl ⟨1, hgone⟩
  have hok : (updateQuiz .calm (lone, .onto (holdingLone.afterAll [emptying, refilling]))).1 =
      .ok () := by decide +kernel
  rw [h] at hok
  cases hok

end Store

end TriviaStore
