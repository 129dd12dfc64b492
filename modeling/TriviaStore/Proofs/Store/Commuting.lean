import TriviaStore.Proofs.Reconcile.Local
import TriviaStore.Proofs.Store.Acceptance

/-! # Commuting reconciliations

Two reconciliations of different parents, of two questions or of two quizzes with everything below them,
can be made in one transaction in either order, if each can be made by itself and all their children have
ids. Neither sees, keeps from working or undoes anything of the other, whatever ids the children have.
-/

namespace TriviaStore

open Attempt

variable {plan : Plan Statement} {c c' c₁ c₂ d : Connection} {p q : Int}

/-! ## Tables by their rows -/

/-- Looking up any id in either list finds the same row only if the lists are the same. -/
theorem Ascending.ext {α : Type} {key : α → Int} {l m : List α} (hl : Ascending key l)
    (hm : Ascending key m) (h : ∀ i, rowAt key l i = rowAt key m i) : l = m := by
  have : Std.Irrefl fun a b : α => key a < key b := ⟨fun a => Int.lt_irrefl (key a)⟩
  have : Std.Antisymm fun a b : α => key a < key b :=
    ⟨fun _ _ hab hba => absurd hab (Int.lt_asymm hba)⟩
  refine List.Pairwise.eq_of_mem_iff hl hm fun r => ?_
  constructor
  · exact fun hr => mem_of_rowAt ((h (key r)).symm.trans (hl.rowAt_of_mem hr))
  · exact fun hr => mem_of_rowAt ((h (key r)).trans (hm.rowAt_of_mem hr))

namespace Tables

variable {t u : Tables}

protected theorem ext (quizzes : t.quizzes = u.quizzes) (questions : t.questions = u.questions)
    (choices : t.choices = u.choices) : t = u := by
  cases t
  cases u
  congr

/-- Where the same is stored of every question, every choice is stored that is stored in one place, since
none is without its question. -/
theorem choiceAt_of_storedQuestion (ht : t.Sound) (h : t.storedQuestion = u.storedQuestion) {i : Int}
    {r : ChoiceRow} (hr : t.choiceAt i = some r) : u.choiceAt i = some r := by
  obtain ⟨o, ho, hid⟩ := ht.choice_owner r (mem_of_rowAt hr)
  have hat := congrFun h o.id
  rw [storedQuestion, (mem_questions ht).mp ho, Option.map_some, eq_comm] at hat
  obtain ⟨_, -, he⟩ := Option.map_eq_some_iff.mp hat
  injection he with _ hbelow
  have hunder : u.choiceUnder o.id i = some r := by
    rw [hbelow, choiceUnder, hr, Option.filter_some, if_pos (by simpa using hid.symm)]
  exact (Option.filter_eq_some_iff.mp hunder).1

/-- Sound tables with the same quizzes that store the same of every question are the same. -/
theorem ext_of_storedQuestion (ht : t.Sound) (hu : u.Sound) (hquizzes : t.quizzes = u.quizzes)
    (h : t.storedQuestion = u.storedQuestion) : t = u := by
  have hrow (t : Tables) (i : Int) : (t.storedQuestion i).map (·.row) = t.questionAt i := by
    simp [storedQuestion, Function.comp_def]
  have hquestions : t.questions = u.questions :=
    ht.questions.ext hu.questions fun i => by rw [← questionAt, ← questionAt, ← hrow, ← hrow, h]
  have hchoices : t.choices = u.choices := by
    refine ht.choices.ext hu.choices fun i => Option.ext fun r => ?_
    exact ⟨choiceAt_of_storedQuestion ht h, choiceAt_of_storedQuestion hu h.symm⟩
  exact Tables.ext hquizzes hquestions hchoices

end Tables

/-! ## Choices -/

namespace Choice

variable (plan) in
/-- The choices by id, whatever the questions are. -/
def soundView : (reconciler plan).View ChoiceRow where
  Inv c := c.working.Sound
  rows c := c.working.choiceAt
  owner := ChoiceRow.questionId
  stored := row?
  existing hs h := by
    obtain ⟨hinv, hids⟩ := (view plan _).existing (Question.around_self hs) h
    exact ⟨hinv.sound, hids⟩
  place hs h := by
    obtain ⟨hinv, hplaced⟩ := (view plan _).place (Question.around_self hs) h
    exact ⟨hinv.sound, hplaced⟩
  discard hs h := by
    obtain ⟨hinv, hrows⟩ := (view plan _).discard (Question.around_self hs) h
    exact ⟨hinv.sound, hrows⟩

/-- A choice that has an id is placed by what is stored under its question alone. -/
theorem soundView_local : (soundView .quiet).Local fun x : Choice => x.id ≠ 0 where
  existing hd h := by
    obtain ⟨hfits, -, -⟩ := existing_ok h
    exact ⟨_, _, existing_quiet hfits⟩
  place {p x x' c c' d} hx hs hd hsame h := by
    obtain ⟨n, t, hn, hu, rfl, rfl⟩ := place_old hx h
    obtain ⟨hfits, -⟩ := Tables.updateChoice_eq_ok.mp hu
    obtain ⟨_, _, _, _, _, _, ⟨r, hr, ho⟩, -⟩ := Tables.updateChoice_at hs hn hu
    have hmissing := admissible_of_place h
    obtain ⟨t', hu'⟩ := Tables.updateChoice_of_row (hsame.rows_eq hr ho) ho (hfits _ (by simp))
      (hfits _ (by simp)) hmissing.text hmissing.correct
    exact place_quiet hx hu'
  discard hs hr := discard_quiet hs hr

/-- The choices of different questions are reconciled in one way in either order. -/
theorem reconcile_comm {xs xs' ys ys' : List Choice} {ids jds : List Int} (hpq : p ≠ q)
    (hxs : ∀ x ∈ xs, x.id ≠ 0) (hys : ∀ y ∈ ys, y.id ≠ 0) (hs : c.working.Sound)
    (hp : (reconciler .quiet).reconcile p (xs, c) = (.ok ids, (xs', c₁)))
    (hq : (reconciler .quiet).reconcile q (ys, c) = (.ok jds, (ys', c₂))) : ∃ d₁ d₂,
      (reconciler .quiet).reconcile q (ys, c₁) = (.ok jds, (ys', d₁)) ∧
      (reconciler .quiet).reconcile p (xs, c₂) = (.ok ids, (xs', d₂)) ∧ d₁.working = d₂.working := by
  obtain ⟨d₁, hpq'⟩ := soundView_local.reconcile_after hpq hys hs hp hq
  obtain ⟨d₂, hqp'⟩ := soundView_local.reconcile_after hpq.symm hxs hs hq hp
  obtain ⟨hd₁, hd₂, hrows⟩ := Reconciler.View.reconcile_comm (v := view .quiet c.working) hpq
    (Question.around_self hs) hp hpq' hq hqp'
  refine ⟨d₁, d₂, hpq', hqp', Tables.ext (hd₁.quizzes.trans hd₂.quizzes.symm) ?_ ?_⟩
  · exact hd₁.questions.trans hd₂.questions.symm
  · exact hd₁.sound.choices.ext hd₂.sound.choices (congrFun hrows)

end Choice

/-! ## Questions -/

namespace Question

/-- The question and its choices all have ids. -/
structure Named (q : Question) : Prop where
  question : q.id ≠ 0
  choices : ∀ x ∈ q.choices, x.id ≠ 0

/-- A question all of whose ids are given is placed by what is stored under its quiz alone. -/
theorem view_local (T : Tables) : (view .quiet T).Local Named where
  existing hd h := by
    obtain ⟨hfits, -, -⟩ := existing_ok h
    exact ⟨_, _, existing_quiet hfits⟩
  place {p q q' c c' d} hq hs hd hsame h := by
    obtain ⟨n, c₁, ids, hn, hu, hr, hq'⟩ := place_old hq.question h
    obtain ⟨hfits, -⟩ := Tables.updateQuestion_eq_ok.mp hu
    obtain ⟨_, _, _, htext, himage, hposition, -, hchoices, ⟨r, hrow, ho⟩, -⟩ :=
      Tables.updateQuestion_at hs.1 hn hu
    -- What is stored of the question in one state is what is stored of it in the other.
    have hstored : c.working.storedQuestion q.id = some ⟨r, c.working.choiceUnder q.id⟩ := by
      rw [Tables.storedQuestion, hrow, Option.map_some]
    obtain ⟨r', hrow', he⟩ := Option.map_eq_some_iff.mp (hsame.rows_eq hstored ho)
    injection he with he hbelow
    subst he
    obtain ⟨t, hu'⟩ : ∃ t, d.working.updateQuestion q.id (some p) q.text q.imageUrl q.position =
        .ok (1, t) :=
      Tables.updateQuestion_of_row hrow' ho hfits (by simp [htext]) (by simp [himage])
        (by simp [hposition])
    obtain ⟨d₁, rfl, hplace⟩ := place_quiet hq.question hu'
    obtain ⟨-, hchoices', -⟩ := Tables.updateQuestion_others hd.1 hu'
    have hunder : (Choice.soundView .quiet).SameUnder q.id c₁ d₁ := fun i => by
      have hi := congrFun hbelow i
      unfold Tables.choiceUnder Tables.choiceAt at hi
      rw [← hchoices, ← hchoices'] at hi
      exact hi.symm
    rw [desired_old hq.question] at hr
    obtain ⟨d', hr'⟩ := Choice.soundView_local.reconcile hq.choices (hs.1.updateQuestion hu)
      (hd.1.updateQuestion hu') hunder hr
    have hq' : q' = { q with quizId := p, choices := q'.choices } := hq'
    rw [hq']
    exact ⟨d', hplace ids _ d' hr'⟩
  discard {p i r c} hs hr := by
    obtain ⟨row, hrow, -⟩ := Option.map_eq_some_iff.mp hr
    exact discard_quiet hs.1 hrow

/-- The questions of different quizzes are reconciled in one way in either order. -/
theorem reconcile_comm {qs qs' rs rs' : List Question} {ids jds : List Int} (hpq : p ≠ q)
    (hqs : ∀ x ∈ qs, x.Named) (hrs : ∀ x ∈ rs, x.Named) (hs : c.working.Sound)
    (hp : (reconciler .quiet).reconcile p (qs, c) = (.ok ids, (qs', c₁)))
    (hq : (reconciler .quiet).reconcile q (rs, c) = (.ok jds, (rs', c₂))) : ∃ d₁ d₂,
      (reconciler .quiet).reconcile q (rs, c₁) = (.ok jds, (rs', d₁)) ∧
      (reconciler .quiet).reconcile p (qs, c₂) = (.ok ids, (qs', d₂)) ∧ d₁.working = d₂.working := by
  have hlocal := view_local c.working
  obtain ⟨d₁, hpq'⟩ := hlocal.reconcile_after hpq hrs ⟨hs, rfl⟩ hp hq
  obtain ⟨d₂, hqp'⟩ := hlocal.reconcile_after hpq.symm hqs ⟨hs, rfl⟩ hq hp
  obtain ⟨hd₁, hd₂, hrows⟩ := Reconciler.View.reconcile_comm (v := view .quiet c.working) hpq
    ⟨hs, rfl⟩ hp hpq' hq hqp'
  exact ⟨d₁, d₂, hpq', hqp',
    Tables.ext_of_storedQuestion hd₁.1 hd₂.1 (hd₁.2.trans hd₂.2.symm) hrows⟩

end Question

/-! ## Batches -/

namespace Task

variable {t t' u u' : Task} {a b : Answer}

/-- Both tasks are reconciliations, of different parents in one table, and all children have ids. -/
inductive Apart : Task → Task → Prop
  | questions {p q : Int} {qs rs : List Question} (parents : p ≠ q) (left : ∀ x ∈ qs, x.Named)
      (right : ∀ x ∈ rs, x.Named) : Apart (.reconcileQuestions p qs) (.reconcileQuestions q rs)
  | choices {p q : Int} {xs ys : List Choice} (parents : p ≠ q) (left : ∀ x ∈ xs, x.id ≠ 0)
      (right : ∀ y ∈ ys, y.id ≠ 0) : Apart (.reconcileChoices p xs) (.reconcileChoices q ys)

theorem perform_reconcileQuestions {qs : List Question} :
    perform plan (.reconcileQuestions p qs) c = (.ok a, (t', c')) ↔
      ∃ ids qs', (Question.reconciler plan).reconcile p (qs, c) = (.ok ids, (qs', c')) ∧
        a = some ids ∧ t' = .reconcileQuestions p qs' := by
  dsimp only [perform]
  rcases (Question.reconciler plan).reconcile p (qs, c) with ⟨e | ids, qs', c₁⟩
  · simp [Except.map]
  · constructor
    · intro h
      cases h
      exact ⟨ids, _, rfl, rfl, rfl⟩
    · rintro ⟨_, _, h, rfl, rfl⟩
      cases h
      rfl

theorem perform_reconcileChoices {xs : List Choice} :
    perform plan (.reconcileChoices p xs) c = (.ok a, (t', c')) ↔
      ∃ ids xs', (Choice.reconciler plan).reconcile p (xs, c) = (.ok ids, (xs', c')) ∧
        a = some ids ∧ t' = .reconcileChoices p xs' := by
  dsimp only [perform]
  rcases (Choice.reconciler plan).reconcile p (xs, c) with ⟨e | ids, xs', c₁⟩
  · simp [Except.map]
  · constructor
    · intro h
      cases h
      exact ⟨ids, _, rfl, rfl, rfl⟩
    · rintro ⟨_, _, h, rfl, rfl⟩
      cases h
      rfl

theorem run_eq_ok {answers answers' : List Answer} :
    run plan (t, (answers, c)) = (.ok (), (t', (answers', c'))) ↔
      ∃ a, perform plan t c = (.ok a, (t', c')) ∧ answers' = answers ++ [a] := by
  dsimp only [run]
  rcases perform plan t c with ⟨e | a, t₁, c₁⟩
  · simp
  · constructor
    · intro h
      cases h
      exact ⟨a, rfl, rfl⟩
    · rintro ⟨_, h, rfl⟩
      cases h
      rfl

theorem perform_of_eachOf (h : eachOf (run plan) [t] ([], c) = (.ok (), ([t'], ([a], c')))) :
    t.perform plan c = (.ok a, (t', c')) := by
  obtain ⟨_, ⟨answers, c₁⟩, _, hrun, hnil, ht⟩ := eachOf_cons_eq_ok.mp h
  cases hnil
  cases ht
  obtain ⟨b, hb, hanswers⟩ := run_eq_ok.mp hrun
  cases hanswers
  exact hb

theorem eachOf_pair (ht : t.perform plan c = (.ok a, (t', c₁)))
    (hu : u.perform plan c₁ = (.ok b, (u', c'))) :
    eachOf (run plan) [t, u] ([], c) = (.ok (), ([t', u'], ([a, b], c'))) :=
  eachOf_cons_eq_ok.mpr ⟨t', _, [u'], run_eq_ok.mpr ⟨a, ht, rfl⟩,
    eachOf_cons_eq_ok.mpr ⟨u', _, [], run_eq_ok.mpr ⟨b, hu, rfl⟩, rfl, rfl⟩, rfl⟩

/-- Tasks apart that succeed by themselves succeed one after the other, in either order. -/
theorem Apart.perform_comm (h : t.Apart u) (hs : c.working.Sound)
    (ht : t.perform .quiet c = (.ok a, (t', c₁))) (hu : u.perform .quiet c = (.ok b, (u', c₂))) :
    ∃ d₁ d₂, u.perform .quiet c₁ = (.ok b, (u', d₁)) ∧ t.perform .quiet c₂ = (.ok a, (t', d₂)) ∧
      d₁.working = d₂.working := by
  cases h with
  | questions parents left right =>
    obtain ⟨ids, qs', hp, rfl, rfl⟩ := perform_reconcileQuestions.mp ht
    obtain ⟨jds, rs', hq, rfl, rfl⟩ := perform_reconcileQuestions.mp hu
    obtain ⟨d₁, d₂, hpq, hqp, hw⟩ := Question.reconcile_comm parents left right hs hp hq
    exact ⟨d₁, d₂, perform_reconcileQuestions.mpr ⟨jds, rs', hpq, rfl, rfl⟩,
      perform_reconcileQuestions.mpr ⟨ids, qs', hqp, rfl, rfl⟩, hw⟩
  | choices parents left right =>
    obtain ⟨ids, xs', hp, rfl, rfl⟩ := perform_reconcileChoices.mp ht
    obtain ⟨jds, ys', hq, rfl, rfl⟩ := perform_reconcileChoices.mp hu
    obtain ⟨d₁, d₂, hpq, hqp, hw⟩ := Choice.reconcile_comm parents left right hs hp hq
    exact ⟨d₁, d₂, perform_reconcileChoices.mpr ⟨jds, ys', hpq, rfl, rfl⟩,
      perform_reconcileChoices.mpr ⟨ids, xs', hqp, rfl, rfl⟩, hw⟩

end Task

namespace Store

variable {t t' u u' : Task} {a b : Task.Answer} {ts us : List Task} {answers : List Task.Answer}
  {n : Nat}

/-- A batch that succeeds has carried out its tasks on the tables that were committed, and committed. -/
theorem batch_ok (h : batch plan none (ts, ([], c)) = (.ok n, (us, (answers, d)))) :
    n = ts.length ∧ ∃ c₁ c₂, (Connection.session plan).begin c.refresh = (.ok (), c₁) ∧
      eachOf (Task.run plan) ts ([], c₁) = (.ok (), (us, (answers, c₂))) ∧
      d.committed = c₂.working := by
  have hacquire : (Connection.session plan).alongside.alongside.acquire (ts, ([], c)) =
      (.ok (), (ts, (([] : List Task.Answer), c.refresh))) := rfl
  obtain ⟨⟨x₁, y₁, c₁⟩, ⟨x₂, y₂, c₂⟩, ⟨x₃, y₃, c₃⟩, hbegin, hwork, hcommit, hend⟩ :=
    (SessionCalls.transaction_eq_ok Connection.session_closes.alongside.alongside hacquire).mp h
  obtain ⟨hbegin₁, rfl⟩ := onSecond_eq_ok.mp hbegin
  obtain ⟨hbegin₂, rfl⟩ := onSecond_eq_ok.mp hbegin₁
  obtain ⟨hcommit₁, rfl⟩ := onSecond_eq_ok.mp hcommit
  obtain ⟨hcommit₂, rfl⟩ := onSecond_eq_ok.mp hcommit₁
  cases hend
  obtain ⟨_, _, hread, hwork⟩ := bind_eq_ok.mp hwork
  cases hread
  obtain ⟨_, _, heach, hpure⟩ := bind_eq_ok.mp hwork
  cases hpure
  have hcommitted : c₃.committed = c₂.working := Connection.commit_ok hcommit₂
  exact ⟨rfl, c₁, c₂, hbegin₂, heach, hcommitted⟩

/-- Undisturbed, a batch succeeds if its tasks do. -/
theorem batch_of_ok (hbegin : (Connection.session .quiet).begin c.refresh = (.ok (), c₁))
    (h : eachOf (Task.run .quiet) ts ([], c₁) = (.ok (), (us, (answers, c₂)))) :
    ∃ d, batch .quiet none (ts, ([], c)) = (.ok ts.length, (us, (answers, d))) ∧
      d.committed = c₂.working := by
  have hacquire : (Connection.session .quiet).alongside.alongside.acquire (ts, ([], c)) =
      (.ok (), (ts, (([] : List Task.Answer), c.refresh))) := rfl
  have hbegin' : (Connection.session .quiet).alongside.alongside.begin
      (ts, (([] : List Task.Answer), c.refresh)) = (.ok (), (ts, ([], c₁))) :=
    onSecond_eq_ok.mpr ⟨onSecond_eq_ok.mpr ⟨hbegin, rfl⟩, rfl⟩
  refine ⟨_, (SessionCalls.transaction_eq_ok Connection.session_closes.alongside.alongside
    hacquire).mpr ⟨_, (us, (answers, c₂)), _, hbegin', ?_, rfl, rfl⟩, rfl⟩
  rw [bind_of_ok (read_run _)]
  exact bind_eq_ok.mpr ⟨(), _, h, rfl⟩

/-- From a store that can be reached, two tasks apart that succeed in a transaction each succeed in one
transaction in either order: every task answers with the ids that it has deleted by itself, and the rows
are the same in the end. -/
theorem batch_commutes (hc : Reachable c.committed) (h : t.Apart u)
    (ht : batch .quiet none ([t], ([], c)) = (.ok 1, ([t'], ([a], c₁))))
    (hu : batch .quiet none ([u], ([], c)) = (.ok 1, ([u'], ([b], c₂)))) : ∃ d₁ d₂,
      batch .quiet none ([t, u], ([], c)) = (.ok 2, ([t', u'], ([a, b], d₁))) ∧
      batch .quiet none ([u, t], ([], c)) = (.ok 2, ([u', t'], ([b, a], d₂))) ∧
      d₁.committed = d₂.committed := by
  obtain ⟨-, s, s₁, hbegin, ht, -⟩ := batch_ok ht
  obtain ⟨-, s', s₂, hbegin', hu, -⟩ := batch_ok hu
  cases hbegin.symm.trans hbegin'
  have hs : s.working.Sound := (Connection.begin_ok hbegin) ▸ hc.sound
  obtain ⟨s₁₂, s₂₁, hu', ht', hw⟩ :=
    h.perform_comm hs (Task.perform_of_eachOf ht) (Task.perform_of_eachOf hu)
  obtain ⟨d₁, htu, hd₁⟩ := batch_of_ok hbegin (Task.eachOf_pair (Task.perform_of_eachOf ht) hu')
  obtain ⟨d₂, hut, hd₂⟩ := batch_of_ok hbegin (Task.eachOf_pair (Task.perform_of_eachOf hu) ht')
  exact ⟨d₁, d₂, htu, hut, hd₁.trans (hw.trans hd₂.symm)⟩

/-- The first two demo questions are left with one choice each. -/
theorem batch_commutes_demo :
    let t := Task.reconcileChoices 1 [{ Choice.new "Paris!" true with id := 1 }]
    let u := Task.reconcileChoices 2 [{ Choice.new "Madrid!" true with id := 5 }]
    ∃ t' u' d₁ d₂,
      batch .quiet none ([t, u], ([], .onto .demo)) =
        (.ok 2, ([t', u'], ([some [2, 3, 4], some [6, 7, 8]], d₁))) ∧
      batch .quiet none ([u, t], ([], .onto .demo)) =
        (.ok 2, ([u', t'], ([some [6, 7, 8], some [2, 3, 4]], d₂))) ∧
      d₁.committed = d₂.committed := by
  intro t u
  have hends {ts us : List Task} {answers : List Task.Answer} {n : Nat}
      (h : (batch .quiet none (ts, ([], .onto .demo))).1 = .ok n ∧
        (batch .quiet none (ts, ([], .onto .demo))).2.1 = us ∧
        (batch .quiet none (ts, ([], .onto .demo))).2.2.1 = answers) :
      ∃ d, batch .quiet none (ts, ([], .onto .demo)) = (.ok n, (us, (answers, d))) :=
    ⟨_, Prod.ext h.1 (Prod.ext h.2.1 (Prod.ext h.2.2 rfl))⟩
  have ht : ∃ d, batch .quiet none ([t], ([], .onto .demo)) = (.ok 1,
      ([.reconcileChoices 1 [{ Choice.new "Paris!" true with id := 1, questionId := 1 }]],
        ([some [2, 3, 4]], d))) := hends (by decide +kernel)
  have hu : ∃ d, batch .quiet none ([u], ([], .onto .demo)) = (.ok 1,
      ([.reconcileChoices 2 [{ Choice.new "Madrid!" true with id := 5, questionId := 2 }]],
        ([some [6, 7, 8]], d))) := hends (by decide +kernel)
  have hapart : t.Apart u := .choices (by decide) (by decide) (by decide)
  obtain ⟨c₁, ht⟩ := ht
  obtain ⟨c₂, hu⟩ := hu
  obtain ⟨d₁, d₂, h⟩ := batch_commutes (c := .onto .demo) reachable_demo hapart ht hu
  exact ⟨_, _, d₁, d₂, h⟩

end Store

end TriviaStore
