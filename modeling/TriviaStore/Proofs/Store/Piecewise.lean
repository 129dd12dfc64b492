import TriviaStore.Proofs.Attempt.Confirms
import TriviaStore.Proofs.Store.Creatable
import TriviaStore.Proofs.Store.Retraced

/-! # Quizzes written piece by piece

A quiz can be written whole, in one transaction, or one question at a time, each in a transaction of
its own. Both come to the same. Creating a quiz whole leaves what creating it without questions and
then every question leaves; and updating a quiz none of whose questions is new or to be deleted leaves
of questions and choices what updating every question leaves. In both cases every question of the
whole is retraced by a write of that question alone, on the tables that the writes before it have
committed.
-/

namespace TriviaStore

open Attempt

variable {cond : Conditions} {clock : Instant} {plan : Plan Statement} {c c' d : Connection}
  {v v' : Quiz} {q q' : Question} {qs qs' : List Question} {p : Int}

namespace Question

/-- Undisturbed, reconciling no questions where none are stored does nothing but look. -/
theorem reconcile_nothing (hp : fits p = true)
    (h : c.working.questions.filter (·.quizId == p) = []) :
    (reconciler .quiet).reconcile p ([], c) =
      (.ok [], ([], { c with issued := c.issued ++ [.select .questions] })) := by
  have hexisting := existing_quiet (c := c) hp
  rw [h] at hexisting
  exact Reconciler.reconcile_eq_ok.mpr ⟨[], _, _, hexisting, rfl, rfl, rfl⟩

end Question

namespace Store

/-! ## Creating -/

/-- A question that was placed as one that was never stored can be created by itself. -/
theorem createQuestion_of_place (hd : d.committed = c.working)
    (h : (Question.reconciler plan).place p (q.forget, c) = (.ok (), (q', c'))) :
    ∃ d', createQuestion ⟨clock, .quiet⟩ ({ q with quizId := p }, d) = (.ok (), (q', d')) ∧
      d'.committed = c'.working := by
  have hnew : (Question.reconciler .quiet).id ({ q with quizId := p }.forget) = 0 := rfl
  unfold createQuestion
  rw [bind_of_ok (update_run _ _)]
  refine transacting_commits _ _ fun d₁ hw => ?_
  have hsees : Connection.Sees (fun t => t) c d₁ := hw.trans hd
  obtain ⟨d₂, hplace, hd₂⟩ := (Question.reconciler_retraced.place p).beside hsees trivial h
  exact ⟨d₂, (Reconciler.upsert_of_new hnew).trans (Reconciler.place_eq_ok.mp hplace), hd₂⟩

theorem createQuestions_of_place (clock : Instant) (hd : d.committed = c.working)
    (h : eachOf ((Question.reconciler plan).place p) (qs.map Question.forget) c =
      (.ok (), (qs', c'))) :
    ∃ d', eachOf (createQuestion ⟨clock, .quiet⟩) (qs.map fun q => { q with quizId := p }) d =
      (.ok (), (qs', d')) ∧ d'.committed = c'.working :=
  eachOf_map_retraced (fun _ _ _ _ _ _ hd h => createQuestion_of_place hd h) hd h

/-- Undisturbed, a quiz whose row can be inserted can be created without questions. -/
theorem createQuiz_bare {now : Moment} {id : Int} {t : Tables} (hs : d.committed.Sound)
    (hnow : Moment.now? clock = some now)
    (hi : d.committed.insertQuiz v.title v.slug v.description now.toMillis = .ok (id, t)) :
    ∃ d', createQuiz ⟨clock, .quiet⟩ ({ v with questions := [] }, d) =
      (.ok (), ({ v with id, createdAt := some now.toInstant, questions := [] }, d')) ∧
      d'.committed = t := by
  obtain ⟨_, _, _, _, _, _, _, hfits, _⟩ := Tables.insertQuiz_eq_ok.mp hi
  have hnone : t.questions.filter (·.quizId == id) = [] :=
    List.filter_eq_nil_iff.mpr fun r hr => by simpa using Question.none_below_new hs hi r hr
  unfold createQuiz
  rw [bind_of_ok (update_run _ _)]
  refine transacting_commits _ _ fun d₁ hw => ?_
  let d₂ : Connection := { d₁ with working := t, issued := d₁.issued ++ [.insert .quizzes] }
  have hinsert := insertQuiz_of_ok (c := d₁) (v := { v with questions := [] }.forget) hnow (hw ▸ hi)
  have hreconcile := Question.reconcile_nothing (c := d₂) hfits hnone
  have hnew : ({ v with questions := [] } : Quiz).forget.id = 0 := rfl
  refine ⟨{ d₂ with issued := d₂.issued ++ [.select .questions] }, ?_, rfl⟩
  unfold upsertQuiz
  rw [bind_of_ok (read_run _)]
  dsimp only
  rw [if_pos hnew]
  exact bind_eq_ok.mpr ⟨(), _, hinsert, inContext_eq_ok.mpr
    (reconcileQuestions_eq_ok.mpr ⟨_, _, _, hreconcile, rfl⟩)⟩

/-- Whatever disturbs it, a quiz that is created whole can be created without its questions, and then
its questions one after the other. The rows are the same in the end, and so are the entities. -/
theorem createQuiz_piecewise (ht : Reachable c.committed)
    (h : createQuiz cond (v, c) = (.ok (), (v', c'))) (hd : d.committed = c.committed) :
    ∃ w d₁ qs d',
      createQuiz ⟨cond.clock, .quiet⟩ ({ v with questions := [] }, d) = (.ok (), (w, d₁)) ∧
      eachOf (createQuestion ⟨cond.clock, .quiet⟩)
        (v.questions.map fun q => { q with quizId := w.id }) d₁ = (.ok (), (qs, d')) ∧
      d'.committed = c'.committed ∧ v' = { w with questions := qs } := by
  obtain ⟨now, c₁, c₂, ids, hnow, hi, hr, hv, hc'⟩ := createQuiz_ok h
  obtain ⟨d₁, hbare, hd₁⟩ := createQuiz_bare (hd ▸ ht.sound) hnow (hd ▸ hi)
  have hnone := Question.none_below_new ht.sound hi
  obtain ⟨c₃, hw, hplace⟩ :=
    Question.eachOf_of_reconcile (fun r hr hp => absurd hp (hnone r hr)) hr
  obtain ⟨d', hcreates, hd'⟩ :=
    createQuestions_of_place cond.clock (hd₁.trans hw.symm) hplace
  exact ⟨_, d₁, v'.questions, d', hbare, hcreates, hd'.trans hc'.symm, hv⟩

theorem createQuiz_piecewise_revised : ∃ w d₁ qs d',
    createQuiz .calm ({ Quiz.revised with questions := [] }, .onto .demo) = (.ok (), (w, d₁)) ∧
      eachOf (createQuestion .calm) (Quiz.revised.questions.map fun q => { q with quizId := w.id }) d₁ =
        (.ok (), (qs, d')) ∧
      d'.committed = (createQuiz .calm (.revised, .onto .demo)).2.2.committed ∧
      (createQuiz .calm (.revised, .onto .demo)).2.1 = { w with questions := qs } := by
  have h : (createQuiz .calm (.revised, .onto .demo)).1 = .ok () := by decide +kernel
  have hcreate : createQuiz .calm (.revised, .onto .demo) =
      (.ok (), ((createQuiz .calm (.revised, .onto .demo)).2.1,
        (createQuiz .calm (.revised, .onto .demo)).2.2)) := Prod.ext h rfl
  have hall := createQuiz_piecewise (c := .onto .demo) (d := .onto .demo) reachable_demo hcreate rfl
  have hcalm : (⟨Conditions.calm.clock, .quiet⟩ : Conditions) = .calm := rfl
  rw [hcalm] at hall
  exact hall

end Store

/-! ## Updating -/

namespace Tables

variable {t t' : Tables} {id : Int} {n : Nat} {text imageUrl : Option String} {position : Option Int}

/-- A question that was overwritten under its quiz can be overwritten by its id alone, whatever the
quizzes, and its quiz is found then. -/
theorem updateQuestion_alone (quizzes : List QuizRow) (hs : t.Sound) (hn : n ≠ 0)
    (h : t.updateQuestion id (some p) text imageUrl position = .ok (n, t')) :
    { t with quizzes }.updateQuestion id none text imageUrl position =
        .ok (n, { t' with quizzes }) ∧
      ∃ r, { t' with quizzes }.question? id = .ok (some r) ∧ r.quizId = p := by
  obtain ⟨_, _, _, _, _, _, _, _, _, hat⟩ := updateQuestion_at hs hn h
  obtain ⟨hfits, ⟨_, rfl, _⟩ | ⟨⟨r, hr, hm⟩, text', imageUrl', position', ht, hi, hp, rfl, rfl⟩⟩ :=
    updateQuestion_eq_ok.mp h
  · exact absurd rfl hn
  have hfits' : ∀ x ∈ position.toList ++ [id], fits x = true := fun x hx => hfits x (by grind)
  -- The row with the id is under the quiz, so that asking for the quiz, too, means the same row.
  have hmeans : ∀ x ∈ t.questions, meansQuestion id none x = meansQuestion id (some p) x := by
    intro x hx
    refine Bool.eq_iff_iff.mpr (meansQuestion_iff.trans (Iff.trans ?_ meansQuestion_iff.symm))
    refine and_congr_right fun hid => iff_of_true (fun _ h => by cases h) ?_
    rw [hs.questions.eq_of_key hx hr (hid.trans (meansQuestion_iff.mp hm).1.symm)]
    exact (meansQuestion_iff.mp hm).2
  refine ⟨updateQuestion_eq_ok.mpr ⟨hfits', .inr ⟨⟨r, hr, (hmeans r hr).trans hm⟩, text', imageUrl',
    position', ht, hi, hp, rfl, ?_⟩⟩, ?_⟩
  · refine congrArg (fun questions => (⟨quizzes, questions, t.choices⟩ : Tables)) ?_
    exact List.map_congr_left fun x hx => by rw [hmeans x hx]
  · have hrow := hat id
    rw [if_pos rfl] at hrow
    exact ⟨_, (question?_ok (hfits id (by simp))).trans (congrArg _ hrow), rfl⟩

end Tables

namespace Store

/-- A question that was placed under its quiz can be updated by itself, whatever the quizzes. -/
theorem updateQuestion_of_place {quizzes : List QuizRow} (hs : c.working.Sound) (hid : q.id ≠ 0)
    (hd : d.committed = { c.working with quizzes })
    (h : (Question.reconciler plan).place p (q, c) = (.ok (), (q', c'))) :
    ∃ d', updateQuestion ⟨clock, .quiet⟩ (q, d) = (.ok (), (q', d')) ∧
      d'.committed = { c'.working with quizzes } := by
  obtain ⟨n, c₁, ids, hn, hu, hreconcile, hq'⟩ := Question.place_old hid h
  rw [Question.desired_old hid] at hreconcile
  obtain ⟨hu, r, ho, hr⟩ := Tables.updateQuestion_alone quizzes hs hn hu
  unfold updateQuestion
  rw [bind_of_ok (read_run _)]
  dsimp only
  rw [if_neg hid]
  refine transacting_commits _ _ fun d₁ hw => ?_
  rw [← hd, ← hw] at hu
  obtain ⟨d₂, hupdate, hd₂⟩ := Question.update_alone_quiet hn hu ho
  have hsees : Connection.Sees (fun t => { t with quizzes }) c₁
    (d₂.note (.childUpdated "question" q.id)) := hd₂
  obtain ⟨d₃, hreconcile, hd₃⟩ :=
    ((Choice.reconciler_retraced (Tables.unnoticed_quizzes quizzes)).reconcile q.id).beside hsees
      trivial hreconcile
  refine ⟨d₃, Reconciler.upsert_eq_ok.mpr (.inr ⟨hid, n, _, hn, hupdate, ?_⟩), hd₃⟩
  rw [← hr] at hq'
  exact Question.reconcileChoices_eq_ok.mpr ⟨ids, q'.choices, d₃, hreconcile, Prod.ext hq' rfl⟩

theorem updateQuestions_of_place {quizzes : List QuizRow} (hs : c.working.Sound)
    (hid : ∀ q ∈ qs, q.id ≠ 0) (hd : d.committed = { c.working with quizzes })
    (h : eachOf ((Question.reconciler plan).place p) qs c = (.ok (), (qs', c'))) :
    ∃ d', eachOf (updateQuestion ⟨clock, .quiet⟩) qs d = (.ok (), (qs', d')) ∧
      d'.committed = { c'.working with quizzes } := by
  have hstep : ∀ q ∈ qs, ∀ c d : Connection, ∀ q' c',
      (c.working.Sound ∧ d.committed = { c.working with quizzes }) →
      (Question.reconciler plan).place p (id q, c) = (.ok (), (q', c')) →
        ∃ d', updateQuestion ⟨clock, .quiet⟩ (id q, d) = (.ok (), (q', d')) ∧
          c'.working.Sound ∧ d'.committed = { c'.working with quizzes } := by
    rintro q hq c d q' c' ⟨hs, hd⟩ hplace
    obtain ⟨d', hupdate, hd'⟩ := updateQuestion_of_place hs (hid q hq) hd hplace
    obtain ⟨_, hpl⟩ := Question.place_ok hs hplace
    exact ⟨d', hupdate, hpl.below.inv.sound, hd'⟩
  rw [← List.map_id qs] at h ⊢
  obtain ⟨d', hupdates, -, hd'⟩ := eachOf_map_retraced hstep ⟨hs, hd⟩ h
  exact ⟨d', hupdates, hd'⟩

/-- Whatever disturbs it, a quiz without new questions that is updated whole, and keeps all questions
stored under it, can be updated question by question. The rows of questions and choices are the same
in the end, and so are the questions. That they were stored under the quiz follows from the update. -/
theorem updateQuiz_questionwise (ht : Reachable c.committed)
    (h : updateQuiz cond (v, c) = (.ok (), (v', c'))) (hid : ∀ q ∈ v.questions, q.id ≠ 0)
    (hall : ∀ r ∈ c.committed.questions, r.quizId = v.id → ∃ q ∈ v.questions, q.id = r.id)
    (hd : d.committed = c.committed) :
    ∃ d', eachOf (updateQuestion ⟨clock, .quiet⟩) v.questions d = (.ok (), (v'.questions, d')) ∧
      d'.committed.questions = c'.committed.questions ∧
      d'.committed.choices = c'.committed.choices := by
  obtain ⟨_, n, c₁, c₂, ids, hn, hu, hr, _, hc'⟩ := updateQuiz_ok h
  obtain ⟨_, _, _, _, _, _, _, hqs, hxs, _, _⟩ := Tables.updateQuiz_at ht.sound hn hu
  obtain ⟨c₃, hw, hplace⟩ := Question.eachOf_of_reconcile (fun r hr hp => by
    obtain ⟨q, hq, he⟩ := hall r (hqs ▸ hr) hp
    exact ⟨q, hq, hid q hq, he⟩) hr
  have hs : c₃.working.Sound := hw ▸ ht.sound.updateQuiz hu
  have hd : d.committed = ⟨c.committed.quizzes, c₃.working.questions, c₃.working.choices⟩ := by
    rw [hd, hw, hqs, hxs]
  obtain ⟨d', hupdates, hd'⟩ := updateQuestions_of_place hs hid hd hplace
  exact ⟨d', hupdates, by rw [hd', hc'], by rw [hd', hc']⟩

end Store

/-- The first demo quiz with its last question in front. That question loses its last choices, and the
next one has a new choice, to which an id is given that the lost ones have left. -/
def Quiz.rechosen : Quiz where
  id := 1
  title := some "Capitals"
  slug := some "capitals"
  description := some ""
  createdAt := none
  questions := [
    { Question.new "Germany?" 10 [{ Choice.new "Berlin" true with id := 9 }] with id := 3 },
    { Question.new "France?" 20 [{ Choice.new "Paris" true with id := 1 }, .new "Lyon" false] with
      id := 1 },
    { Question.new "Spain?" 30 [{ Choice.new "Madrid" true with id := 5 }] with id := 2 }]

theorem Store.updateQuiz_questionwise_rechosen :
    ∃ d', eachOf (updateQuestion .calm) Quiz.rechosen.questions (.onto .demo) =
        (.ok (), ((updateQuiz .calm (.rechosen, .onto .demo)).2.1.questions, d')) ∧
      d'.committed.questions = (updateQuiz .calm (.rechosen, .onto .demo)).2.2.committed.questions ∧
      d'.committed.choices = (updateQuiz .calm (.rechosen, .onto .demo)).2.2.committed.choices := by
  have h : (updateQuiz .calm (.rechosen, .onto .demo)).1 = .ok () := by decide +kernel
  have hupdate : updateQuiz .calm (.rechosen, .onto .demo) =
      (.ok (), ((updateQuiz .calm (.rechosen, .onto .demo)).2.1,
        (updateQuiz .calm (.rechosen, .onto .demo)).2.2)) := Prod.ext h rfl
  exact updateQuiz_questionwise (c := .onto .demo) reachable_demo hupdate (by decide)
    (by decide +kernel) rfl

end TriviaStore
