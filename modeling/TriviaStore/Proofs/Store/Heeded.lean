import TriviaStore.Proofs.Reconcile.Alike
import TriviaStore.Proofs.Store.Authored
import TriviaStore.Proofs.Store.Success
import TriviaStore.Proofs.Store.Views

/-! # What writes heed

Of the ids and parents that a caller names, a write heeds only those that mean a row: parents are
those under which the entities stand, and below an entity without an id nothing has one. Two
aggregates that differ in nothing else are written alike, from any store, at any time and under any
plan of disturbances.
-/

namespace TriviaStore

open Attempt

variable {cond : Conditions} {plan : Plan Statement} {p : Int}

/-- The choice without the parent that it names. -/
def Choice.heeded (x : Choice) : Choice := { x with questionId := 0 }

/-- The question without parents, and without ids below it if it has none itself. -/
def Question.heeded (q : Question) : Question :=
  { q with quizId := 0, choices := q.desired.map Choice.heeded }

/-- The quiz without its creation time, with what is heeded of its questions. -/
def Quiz.heeded (v : Quiz) : Quiz :=
  { v with createdAt := none, questions := v.questions.map Question.heeded }

/-- The question under its quiz, with what is heeded of its choices. -/
def Question.standing (q : Question) : Question :=
  { q with choices := q.choices.map Choice.heeded }

theorem forall₂_of_map_eq {τ A : Type} {f : τ → A} {ts us : List τ} (h : ts.map f = us.map f) :
    List.Forall₂ (fun t u => f t = f u) ts us := by
  rw [← List.forall₂_eq_eq_eq, List.forall₂_map_left_iff, List.forall₂_map_right_iff] at h
  exact h

/-! ## Choices -/

/-- Choices differ no more once they point at their question. -/
theorem Choice.alike_place : ((reconciler plan).place p).Alike (fun x y => x.heeded = y.heeded)
    (fun _ => Eq) (Fails Eq) := by
  have hE : ∀ x : Failure × Choice, Fails Eq x x := fun _ => rfl
  apply Reconciler.alike_place_of_attach hE
  intro x y h
  exact congrArg (fun z : Choice => { z with questionId := p }) h

theorem Choice.alike_reconcile : ((reconciler plan).reconcile p).Alike
    (fun xs ys => xs.map heeded = ys.map heeded) (fun _ => Eq) (Fails Eq) := by
  have hid : ∀ x y : Choice, x.heeded = y.heeded → y.id = x.id :=
    fun x y h => (congrArg (fun z : Choice => z.id) h).symm
  exact (Reconciler.alike_reconcile hid alike_place).mono (fun _ _ => forall₂_of_map_eq)
    (fun _ _ _ h => h) fun _ _ h => h

/-! ## Questions -/

/-- A question that was updated is stored. -/
theorem Tables.question?_updated {t t' : Tables} {i : Int} {n : Nat} {parent : Option Int}
    {text imageUrl : Option String} {position : Option Int} (hn : n ≠ 0)
    (h : t.updateQuestion i parent text imageUrl position = .ok (n, t')) :
    ∃ row, t'.question? i = .ok (some row) := by
  obtain ⟨hfit, ⟨_, rfl, _⟩ | ⟨⟨r, hr, hm⟩, _, _, _, _, _, _, _, ht⟩⟩ := updateQuestion_eq_ok.mp h
  · exact absurd rfl hn
  have hfit : fits i = true := hfit i (by simp)
  have hstored : ∃ x ∈ t'.questions, (x.id == i) = true := by
    rw [ht]
    refine ⟨_, List.mem_map_of_mem hr, ?_⟩
    simp [hm, (meansQuestion_iff.mp hm).1]
  obtain ⟨row, hrow⟩ := Option.isSome_iff_exists.mp (List.find?_isSome.mpr hstored)
  exact ⟨row, (question?_ok hfit).trans (congrArg Except.ok hrow)⟩

theorem alike_assigning {τ : Type} {R S : τ → τ → Prop} {E : Failure × τ → Failure × τ → Prop}
    {insert : τ → Attempt Connection Int} {set : Int → τ → τ}
    (hinsert : ∀ t u, R t u → insert t = insert u) (hset : ∀ i t u, R t u → S (set i t) (set i u))
    (hE : ∀ e t u, R t u → E (e, t) (e, u)) :
    (assigning insert set).Alike R (fun _ => S) E := by
  intro t u c h
  dsimp only [assigning]
  rw [hinsert t u h]
  rcases insert u c with ⟨e | i, c'⟩
  · exact .error (hE e t u h)
  · exact .ok (hset i t u h)

namespace Question

/-- Questions that stand under one quiz and differ in nothing that is heeded. -/
def Matches (q r : Question) : Prop := q.standing = r.standing

theorem Matches.fields {q r : Question} (h : q.Matches r) :
    q.id = r.id ∧ q.quizId = r.quizId ∧ q.text = r.text ∧ q.imageUrl = r.imageUrl ∧
      q.position = r.position ∧ q.choices.map Choice.heeded = r.choices.map Choice.heeded := by
  simpa [Matches, standing] using h

/-- The failures are the same, and so are the ids and parents that they tell. -/
abbrev FailsSame : Failure × Question → Failure × Question → Prop :=
  FailsTelling fun q => (q.id, q.quizId)

theorem Matches.failsSame {q r : Question} (h : q.Matches r) (e : Failure) :
    FailsSame (e, q) (e, r) :=
  ⟨rfl, Prod.ext h.fields.1 h.fields.2.1⟩

theorem alike_create : (reconciler plan).create.Alike Matches (fun _ => Matches) FailsSame := by
  rw [reconciler_create]
  refine alike_assigning (fun q r h => ?_) (fun i q r h => ?_) fun e q r h => h.failsSame e
  · obtain ⟨_, hquiz, htext, himage, hpos, _⟩ := h.fields
    rw [hquiz, htext, himage, hpos]
  · exact congrArg (fun q : Question => { q with id := i }) h

/-- Below questions that match, the choices become equal. -/
theorem alike_reconcileChoices :
    (reconcileChoices plan).Alike Matches (fun _ => Eq) FailsSame := by
  intro q r c h
  obtain ⟨hid, hquiz, htext, himage, hpos, hchoices⟩ := h.fields
  have hr : EndsAlike (fun _ => Eq) (Fails Eq)
      ((Choice.reconciler plan).reconcile q.id (q.choices, c))
      ((Choice.reconciler plan).reconcile r.id (r.choices, c)) := by
    rw [← hid]
    exact Choice.alike_reconcile _ _ c hchoices
  refine hr.part (f := fun choices => { q with choices }) (g := fun choices => { r with choices })
    ?_ ?_
  · rintro _ choices _ rfl
    rw [hid, hquiz, htext, himage, hpos]
  · rintro e _ _ _ rfl
    exact ⟨rfl, Prod.ext hid hquiz⟩

theorem fields_of_heeded {q r : Question} (h : q.heeded = r.heeded) :
    q.id = r.id ∧ q.text = r.text ∧ q.imageUrl = r.imageUrl ∧ q.position = r.position ∧
      q.desired.map Choice.heeded = r.desired.map Choice.heeded := by
  simpa [heeded] using h

/-- A question with an id is heeded with the ids of its choices. -/
theorem matches_of_heeded {q r : Question} (h : q.heeded = r.heeded) (hquiz : q.quizId = r.quizId)
    (hq : q.id ≠ 0) : q.Matches r := by
  obtain ⟨hid, htext, himage, hpos, hchoices⟩ := fields_of_heeded h
  rw [desired, if_neg hq, desired, if_neg (hid ▸ hq)] at hchoices
  simp only [Matches, standing, hid, hquiz, htext, himage, hpos, hchoices]

/-- A question without an id is heeded without the ids of its choices. -/
theorem matches_of_new {q r : Question} (h : q.heeded = r.heeded) (hquiz : q.quizId = r.quizId)
    (hq : q.id = 0) : q.forgetChoices.Matches r.forgetChoices := by
  obtain ⟨hid, htext, himage, hpos, hchoices⟩ := fields_of_heeded h
  rw [desired, if_pos hq, desired, if_pos (hid ▸ hq)] at hchoices
  simp only [Matches, standing, forgetChoices, hid, hquiz, htext, himage, hpos, hchoices]

theorem alike_update_under :
    (update plan (some p)).Alike Matches (fun _ => Matches) FailsSame := by
  refine Alike.read_bind (fun q r c h => ?_) fun q r c h => ?_
  · obtain ⟨hid, _, htext, himage, hpos, _⟩ := h.fields
    simp only [hid, htext, himage, hpos]
  · refine (alike_onSecond _ fun e q r h => h.failsSame e).bind (fun n => ?_) q r c h
    rw [if_neg fun hn => Option.some_ne_none p hn.2]
    exact alike_pure fun _ _ h => h

/-- Questions that are heeded alike under one quiz become equal when they are upserted there. -/
theorem alike_upsert_under : ((reconciler plan).upsert (some p)).Alike
    (fun q r => q.heeded = r.heeded ∧ q.quizId = r.quizId) (fun _ => Eq) FailsSame := by
  refine Reconciler.alike_upsert Reconciler.worded_telling
    (fun q r h => (fields_of_heeded h.1).1.symm) (fun q r h => h.fields.1.symm) ?_ alike_create ?_
    alike_reconcileChoices
  · exact alike_update fun q r c ⟨⟨h, hquiz⟩, hq⟩ => ⟨rfl, matches_of_new h hquiz hq⟩
  · refine alike_update_under.mono (fun q r ⟨⟨h, hquiz⟩, hq⟩ => matches_of_heeded h hquiz hq)
      (fun n q r h => ?_) fun _ _ h => h
    split
    · exact fun e => h.failsSame e
    · exact h

theorem alike_place : ((reconciler plan).place p).Alike (fun q r => q.heeded = r.heeded)
    (fun _ => Eq) FailsSame :=
  Reconciler.alike_place (fun _ _ h => ⟨h, rfl⟩) alike_upsert_under

theorem alike_reconcile : ((reconciler plan).reconcile p).Alike
    (fun qs rs => qs.map heeded = rs.map heeded) (fun _ => Eq) (Fails Eq) := by
  have hid : ∀ q r : Question, q.heeded = r.heeded → r.id = q.id :=
    fun q r h => (fields_of_heeded h).1.symm
  have hplace : ((reconciler plan).place p).Alike (fun q r => q.heeded = r.heeded) (fun _ => Eq)
      (Fails Eq) :=
    alike_place.mono (fun _ _ h => h) (fun _ _ _ h => h) fun _ _ h => h.1
  exact (Reconciler.alike_reconcile hid hplace).mono (fun _ _ => forall₂_of_map_eq)
    (fun _ _ _ h => h) fun _ _ h => h

/-! ### Questions updated by their ids alone -/

theorem alike_findOwner {c : Connection} {q r : Question} {row : QuestionRow}
    (h : q.heeded = r.heeded) (hq : q.id ≠ 0)
    (hrow : c.working.question? q.id = .ok (some row)) :
    EndsAlike (fun _ => Matches) (Fails fun _ _ => True) (findOwner plan (q, c))
      (findOwner plan (r, c)) := by
  have hid := (fields_of_heeded h).1
  rcases hf : Connection.query plan .questions (Tables.question? q.id) c with ⟨e | row?, c'⟩
  all_goals
    have hg := hf
    rw [hid] at hg
    dsimp only [findOwner]
    rw [hf, hg]
  · exact .error trivial
  · have hfound := (Connection.query_ok hf).1
    rw [hrow] at hfound
    cases hfound
    exact .ok (matches_of_heeded h rfl hq)

/-- A question that was updated by its id alone points at the quiz that it is stored under. -/
theorem alike_update_alone : (update plan none).Alike (fun q r => q.heeded = r.heeded ∧ q.id ≠ 0)
    (fun n q r => n ≠ 0 → q.Matches r) (Fails fun _ _ => True) := by
  rintro q r c ⟨h, hq⟩
  obtain ⟨hid, htext, himage, hpos, _⟩ := fields_of_heeded h
  unfold update
  rw [bind_of_ok (read_run _), bind_of_ok (read_run _)]
  dsimp only
  rw [← hid, ← htext, ← himage, ← hpos]
  have hrun (q' : Question) := onSecond_run (Connection.write plan (.update .questions)
    (Tables.updateQuestion q.id none q.text q.imageUrl q.position)) q' c
  rcases hw : Connection.write plan (.update .questions)
    (Tables.updateQuestion q.id none q.text q.imageUrl q.position) c with ⟨e | n, c₁⟩ <;>
    rw [hw] at hrun
  · rw [bind_of_error (hrun q), bind_of_error (hrun r)]
    exact .error trivial
  · rw [bind_of_ok (hrun q), bind_of_ok (hrun r)]
    by_cases hn : n = 0
    · rw [if_neg fun h => h.1 hn]
      exact .ok fun h => absurd hn h
    · obtain ⟨row, hrow⟩ := Tables.question?_updated hn (Connection.write_ok hw hn)
      rw [if_pos ⟨hn, rfl⟩]
      exact Alike.bind_run (alike_findOwner h hq hrow) fun _ => alike_pure fun _ _ h _ => h

/-- Questions that are heeded alike become equal when they are upserted by their ids alone. -/
theorem alike_upsert_alone : ((reconciler plan).upsert none).Alike
    (fun q r => q.heeded = r.heeded ∧ q.id ≠ 0) (fun _ => Eq) (Fails fun _ _ => True) := by
  have hdescend : (reconcileChoices plan).Alike Matches (fun _ => Eq) (Fails fun _ _ => True) :=
    alike_reconcileChoices.mono (fun _ _ h => h) (fun _ _ _ h => h) fun _ _ _ => trivial
  have hcreate : (reconciler plan).create.Alike Matches (fun _ => Matches)
      (Fails fun _ _ => True) :=
    alike_create.mono (fun _ _ h => h) (fun _ _ _ h => h) fun _ _ _ => trivial
  refine Reconciler.alike_upsert (fun _ _ _ _ _ _ _ => trivial)
    (fun q r h => (fields_of_heeded h.1).1.symm) (fun q r h => h.fields.1.symm) ?_ hcreate ?_ hdescend
  · exact alike_update fun q r c ⟨⟨_, hq⟩, h₀⟩ => absurd h₀ hq
  · refine alike_update_alone.mono (fun q r h => h.1) (fun n q r h => ?_) fun _ _ h => h
    split
    · exact fun _ => trivial
    · exact h ‹_›

end Question

/-! ## Quizzes -/

namespace Store

variable {K : Option Instant → Option Instant → Prop}

theorem fields_of_heeded {v w : Quiz} (h : v.heeded = w.heeded) :
    v.id = w.id ∧ v.title = w.title ∧ v.slug = w.slug ∧ v.description = w.description ∧
      v.questions.map Question.heeded = w.questions.map Question.heeded := by
  simpa [Quiz.heeded] using h

/-- Quizzes that are heeded alike, with creation times that are related. -/
def Matches (K : Option Instant → Option Instant → Prop) (v w : Quiz) : Prop :=
  v.heeded = w.heeded ∧ K v.createdAt w.createdAt

/-- Quizzes that are equal but for their creation times, which are related. -/
def Equals (K : Option Instant → Option Instant → Prop) (v w : Quiz) : Prop :=
  { v with createdAt := none } = { w with createdAt := none } ∧ K v.createdAt w.createdAt

theorem alike_insertQuiz : (insertQuiz cond).Alike (fun v w => v.heeded = w.heeded)
    (fun _ => Matches Eq) (Fails Eq) := by
  intro v w c h
  obtain ⟨_, htitle, hslug, hdesc, hquestions⟩ := fields_of_heeded h
  dsimp only [insertQuiz]
  rw [htitle, hslug, hdesc]
  split
  · exact .error rfl
  · split
    · refine .ok ⟨?_, rfl⟩
      simp only [Quiz.heeded, hquestions]
    · exact .error rfl

theorem alike_overwriteQuiz :
    (overwriteQuiz cond).Alike (Matches K) (fun _ => Matches K) (Fails Eq) := by
  refine Alike.read_bind (fun v w c h => ?_) fun v w c h => ?_
  · obtain ⟨hid, htitle, hslug, hdesc, _⟩ := fields_of_heeded h.1
    simp only [hid, htitle, hslug, hdesc]
  · refine (alike_onSecond _ fun _ _ _ _ => rfl).bind (fun n => ?_) v w c h
    split
    · exact alike_fail fun _ _ _ => rfl
    · exact alike_pure fun _ _ h => h

theorem alike_reconcileQuestions : (reconcileQuestions cond).Alike (Matches K) (fun _ => Equals K)
    (FailsTelling (·.id)) := by
  intro v w c h
  obtain ⟨hid, htitle, hslug, hdesc, hquestions⟩ := fields_of_heeded h.1
  have hr : EndsAlike (fun _ => Eq) (Fails Eq)
      ((Question.reconciler cond.plan).reconcile v.id (v.questions, c))
      ((Question.reconciler cond.plan).reconcile w.id (w.questions, c)) := by
    rw [← hid]
    exact Question.alike_reconcile _ _ c hquestions
  refine hr.part (f := fun questions => { v with questions })
    (g := fun questions => { w with questions }) ?_ ?_
  · rintro _ questions _ rfl
    refine ⟨?_, h.2⟩
    simp only [hid, htitle, hslug, hdesc]
  · rintro e _ _ _ rfl
    exact ⟨rfl, hid⟩

theorem alike_below : ((reconcileQuestions cond).inContext
    fun (q, _) => s!"error upserting quiz {q.id}").Alike (Matches K) (fun _ => Equals K)
      (Fails Eq) := by
  refine alike_reconcileQuestions.mapFailure ?_
  rintro e d v w c ⟨he, hid⟩
  obtain rfl : e = d := he
  dsimp only at hid ⊢
  rw [hid]
  rfl

/-- New quizzes that are heeded alike become equal. -/
theorem alike_upsertQuiz_new : (upsertQuiz cond).Alike
    (fun v w => v.heeded = w.heeded ∧ v.id = 0) (fun _ => Eq) (Fails Eq) := by
  have heq (v w : Quiz) (h : Equals Eq v w) : v = w := by
    cases v
    cases w
    simp_all [Equals]
  refine Alike.read_bind (fun v w c h => ?_) fun v w c h => ?_
  · simp only [(fields_of_heeded h.1).1]
  · dsimp only
    rw [if_pos h.2]
    refine (alike_insertQuiz.bind (fun _ => alike_below) v w c h.1).mono (fun _ => heq) fun _ _ h => h

/-- Stored quizzes that are heeded alike become equal but for their creation times. -/
theorem alike_upsertQuiz_old : (upsertQuiz cond).Alike
    (fun v w => v.heeded = w.heeded ∧ v.id ≠ 0)
    (fun _ v w => { v with createdAt := none } = { w with createdAt := none }) (Fails Eq) := by
  refine Alike.read_bind (fun v w c h => ?_) fun v w c h => ?_
  · simp only [(fields_of_heeded h.1).1]
  · dsimp only
    rw [if_neg h.2]
    have hany : Matches (fun _ _ => True) v w := ⟨h.1, trivial⟩
    exact (alike_overwriteQuiz.bind (fun _ => alike_below) v w c hany).mono (fun _ _ _ h => h.1)
      fun _ _ h => h

end Store

end TriviaStore
