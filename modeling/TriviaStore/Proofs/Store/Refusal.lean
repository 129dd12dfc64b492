import TriviaStore.Proofs.Reconcile.Origin
import TriviaStore.Proofs.Store.Ownership

/-! # What an update refuses

An update that reaches a question or a choice with an id that is not accepted ends there, and says
so: undisturbed, it fails with the error of an update that matched no row, named after the quiz, and
for a choice after the question, that it comes from below.
-/

namespace TriviaStore

open Attempt

variable {plan : Plan Statement} {clock : Instant} {c c' : Connection} {v v' : Quiz} {p : Int}

theorem Connection.write_none {s : Statement} {change : Tables → Except Failure (Nat × Tables)}
    (h : change c.working = .ok (0, c.working)) :
    ∃ c', Connection.write .quiet s change c = (.ok 0, c') :=
  ⟨_, Connection.write_quiet h⟩

namespace Store

/-- An undisturbed transaction fails with the error of its work. -/
theorem transacting_error {τ : Type} {work : Attempt (τ × Connection) Unit} {x : τ}
    {c₁ : Connection} {e : Failure} {y : τ × Connection}
    (hb : (Connection.session .quiet).begin c.refresh = (.ok (), c₁))
    (hw : work (x, c₁) = (.error e, y)) : (transacting .quiet work (x, c)).1 = .error e := by
  have ha : (Connection.session .quiet).alongside.acquire (x, c) = (.ok (), (x, c.refresh)) := rfl
  unfold transacting
  rw [SessionCalls.transaction_eq Connection.session_closes.alongside ha]
  have hs : (Connection.session .quiet).alongside.start (x, c.refresh) = (.ok (), (x, c₁)) :=
    SessionCalls.start_eq_ok.mpr (onSecond_eq_ok.mpr ⟨hb, rfl⟩)
  have henter : (Connection.session .quiet).alongside.unit.enter (x, c.refresh) = (.ok (), (x, c₁)) := hs
  rw [Routine.around_of_failed henter hw]
  rfl

/-- A list of questions, given instead of one that was stored, is refused with the error it meets
while its questions are placed. -/
theorem updateQuiz_refuses {qs : List Question}
    (h : updateQuiz ⟨clock, .quiet⟩ ({ v with questions := qs }, c) = (.ok (), (v', c')))
    (hc : c.committed.Sound) :
    ∃ c₀ c₁, c₀.working.Sound ∧ c₀.working.questions = c.committed.questions ∧
      c₀.working.choices = c.committed.choices ∧
      eachOf ((Question.reconciler .quiet).place v.id) qs c₀ = (.ok (), (v'.questions, c₁)) ∧
      ∀ ds e y, eachOf ((Question.reconciler .quiet).place v.id) ds c₀ = (.error (.store e), y) →
        (updateQuiz ⟨clock, .quiet⟩ ({ v with questions := ds }, c)).1 =
          .error (.store (e.addContext s!"error upserting quiz {v.id}")) := by
  unfold updateQuiz at h
  rw [bind_of_ok (read_run _)] at h
  dsimp only at h
  split at h
  · obtain ⟨_, _, hf, _⟩ := bind_eq_ok.mp h
    cases hf
  rename_i hv
  obtain ⟨_, ⟨x, c₃⟩, ht, h⟩ := bind_eq_ok.mp h
  obtain ⟨c₂, c₄, hb, hw, _⟩ := transacting_ok ht
  obtain ⟨rfl, _⟩ := announce_ok h
  obtain ⟨c₅, ids, ho, hr, _⟩ := upsertQuiz_old (v := { v with questions := qs }) hv hw
  obtain ⟨n, c₆, hn, hy, hu⟩ := overwriteQuiz_eq_ok.mp ho
  obtain ⟨_, rfl⟩ := Prod.mk.inj hy
  obtain ⟨existing, c₀, c₁, he, hp, _, _⟩ := Reconciler.reconcile_eq_ok.mp hr
  have hcw : c₂.working = c.committed := Connection.begin_ok hb
  have hc₂ : c₂.working.Sound := hcw ▸ hc
  have hut := Connection.write_ok hu hn
  obtain ⟨_, _, _, _, _, _, _, hqs, hxs, _, _⟩ := Tables.updateQuiz_at hc₂ hn hut
  obtain ⟨-, -, hw₀⟩ := Question.existing_ok he
  refine ⟨c₀, c₁, hw₀ ▸ hc₂.updateQuiz hut, by rw [hw₀, hqs, hcw], by rw [hw₀, hxs, hcw], hp, ?_⟩
  rintro ds e ⟨us, c₇⟩ hd
  have hover : overwriteQuiz ⟨clock, .quiet⟩ ({ v with questions := ds }, c₂) =
      (.ok (), ({ v with questions := ds }, c₅)) :=
    overwriteQuiz_eq_ok.mpr ⟨n, c₅, hn, rfl, hu⟩
  have hrec : reconcileQuestions ⟨clock, .quiet⟩ ({ v with questions := ds }, c₅) =
      (.error (.store e), ({ v with questions := us }, c₇)) := by
    dsimp only [reconcileQuestions]
    rw [Reconciler.reconcile_error he hd]
    rfl
  have hups : upsertQuiz ⟨clock, .quiet⟩ ({ v with questions := ds }, c₂) =
      (.error (.store (e.addContext s!"error upserting quiz {v.id}")),
        ({ v with questions := us }, c₇)) := by
    unfold upsertQuiz
    rw [bind_of_ok (read_run _)]
    dsimp only
    rw [if_neg hv, bind_of_ok hover]
    rw [inContext_store hrec]
  unfold updateQuiz
  rw [bind_of_ok (read_run _)]
  dsimp only
  rw [if_neg hv]
  have htr := transacting_error hb hups
  rcases hr : transacting .quiet (upsertQuiz ⟨clock, .quiet⟩) ({ v with questions := ds }, c)
    with ⟨r, z⟩
  rw [hr] at htr
  obtain rfl : r = _ := htr
  rw [bind_of_error hr]

end Store

/-! ## Choices -/

/-- A list of choices, given instead of one that was stored below a question, is refused with the
error it meets while its choices are placed. -/
theorem Question.place_refuses {q q' : Question} {xs : List Choice} (hs : c.working.Sound)
    (hq : q.id ≠ 0)
    (h : (Question.reconciler plan).place p ({ q with choices := xs }, c) = (.ok (), (q', c'))) :
    ∃ c₀ c₁, c₀.working.Sound ∧ c₀.working.choices = c.working.choices ∧
      eachOf ((Choice.reconciler plan).place q.id) xs c₀ = (.ok (), (q'.choices, c₁)) ∧
      ∀ zs e y, eachOf ((Choice.reconciler plan).place q.id) zs c₀ = (.error (.store e), y) →
        ∃ y', (Question.reconciler plan).place p ({ q with choices := zs }, c) =
          (.error (.store (e.addContext s!"error upserting question {q.id}")), y') := by
  rcases Reconciler.upsert_eq_ok.mp (Reconciler.place_eq_ok.mp h) with
    ⟨hz, _⟩ | ⟨_, n, z, hn, hu, hd⟩
  · exact absurd hz hq
  obtain ⟨c₂, hw, rfl⟩ := Question.update_eq_ok.mp hu
  obtain ⟨ids, choices, c₃, hr, hy⟩ := Question.reconcileChoices_eq_ok.mp hd
  obtain ⟨rfl, rfl⟩ := Prod.mk.inj hy
  have hr : (Choice.reconciler plan).reconcile q.id (xs, c₂.note (.childUpdated "question" q.id)) =
    (.ok ids, (choices, c')) := hr
  obtain ⟨existing, c₀, c₁, he, hp, _, _⟩ := Reconciler.reconcile_eq_ok.mp hr
  have hup : c.working.updateQuestion q.id (some p) q.text q.imageUrl q.position =
      .ok (n, c₂.working) := Connection.write_ok hw hn
  obtain ⟨_, _, _, _, _, _, _, hxs, _, _⟩ := Tables.updateQuestion_at hs hn hup
  have hw₀ : c₀.working = c₂.working := (Choice.existing_ok he).2.2
  refine ⟨c₀, c₁, hw₀ ▸ hs.updateQuestion hup, by rw [hw₀, hxs], hp, ?_⟩
  rintro zs e ⟨us, c₄⟩ hz
  have hd' : Question.reconcileChoices plan ({ q with quizId := p, choices := zs },
      c₂.note (.childUpdated "question" q.id)) =
        (.error (.store e), ({ q with quizId := p, choices := us }, c₄)) := by
    dsimp only [Question.reconcileChoices]
    rw [Reconciler.reconcile_error he hz]
    rfl
  have hpl := Reconciler.place_below (t := Question.reconciler plan) (p := p)
    (c := { q with choices := zs }) hq hn (Question.update_eq_ok.mpr ⟨c₂, hw, rfl⟩) hd'
  exact ⟨_, hpl⟩

/-! ## Refusals -/

/-- A question whose id is not accepted is not found. -/
theorem Question.place_unowned {q : Question} (hs : c.working.Sound) (hq : q.id ≠ 0)
    (hfit : ∀ n ∈ q.position.toList ++ [q.id, p], fits n = true)
    (hun : ∀ r, c.working.questionAt q.id = some r → r.quizId ≠ p) :
    ∃ y, (Question.reconciler .quiet).place p (q, c) =
      (.error (.store (.missed .updatingQuestion q.id)), y) := by
  have hnone : c.working.updateQuestion q.id (some p) q.text q.imageUrl q.position =
      .ok (0, c.working) := by
    refine Tables.updateQuestion_eq_ok.mpr ⟨hfit, .inl ⟨fun r hr => ?_, rfl, rfl⟩⟩
    refine Bool.eq_false_iff.mpr fun hm => ?_
    obtain ⟨hid, hp⟩ := Tables.meansQuestion_iff.mp hm
    refine hun r ?_ (hp p rfl)
    rw [← hid]
    exact hs.questions.rowAt_of_mem hr
  obtain ⟨c₁, hw⟩ := Connection.write_none (s := .update .questions) hnone
  exact ⟨_, Reconciler.place_missed (t := Question.reconciler .quiet) hq
    (Question.update_eq_ok.mpr ⟨c₁, hw, rfl⟩)⟩

/-- A choice whose id is not accepted is not found. -/
theorem Choice.place_unowned {x : Choice} (hs : c.working.Sound) (hx : x.id ≠ 0)
    (hfit : ∀ n ∈ [x.id, p], fits n = true)
    (hun : ∀ r, c.working.choiceAt x.id = some r → r.questionId ≠ p) :
    ∃ y, (Choice.reconciler .quiet).place p (x, c) =
      (.error (.store (.missed .updatingChoice x.id)), y) := by
  have hnone : c.working.updateChoice x.id (some p) x.text x.correct = .ok (0, c.working) := by
    refine Tables.updateChoice_eq_ok.mpr ⟨hfit, .inl ⟨fun r hr => ?_, rfl, rfl⟩⟩
    refine Bool.eq_false_iff.mpr fun hm => ?_
    obtain ⟨hid, hp⟩ := Tables.meansChoice_iff.mp hm
    refine hun r ?_ (hp p rfl)
    rw [← hid]
    exact hs.choices.rowAt_of_mem hr
  obtain ⟨c₁, hw⟩ := Connection.write_none (s := .update .choices) hnone
  exact ⟨_, Reconciler.place_missed (t := Choice.reconciler .quiet) hx
    (Choice.update_eq_ok.mpr ⟨c₁, hw, rfl⟩)⟩

namespace Store

theorem refuses_question (hc : c.committed.Sound) {qs rest : List Question} {q : Question}
    (h : updateQuiz ⟨clock, .quiet⟩ ({ v with questions := qs }, c) = (.ok (), (v', c')))
    (hq : q.id ≠ 0) (hfit : ∀ n ∈ q.id :: q.position.toList, fits n = true)
    (hun : ∀ r ∈ c.committed.questions, r.id = q.id → r.quizId ≠ v.id)
    (hnew : ¬ GivenBefore (·.id) qs v'.questions qs.length q.id) :
    (updateQuiz ⟨clock, .quiet⟩ ({ v with questions := qs ++ q :: rest }, c)).1 =
      .error (.store ((StoreError.missed .updatingQuestion q.id).addContext
        s!"error upserting quiz {v.id}")) := by
  obtain ⟨_, _, _, _, _, _, hu, _, _, _⟩ := updateQuiz_ok h
  obtain ⟨c₀, c₁, hs₀, hqs, _, hp, hrefuse⟩ := updateQuiz_refuses h hc
  have hall := (Question.view .quiet c₀.working).eachOf_place ⟨hs₀, rfl⟩ hp
  have hun₀ : ∀ r, c₀.working.storedQuestion q.id = some r → r.row.quizId ≠ v.id := by
    intro s hs
    obtain ⟨r, hr, rfl⟩ := Option.map_eq_some_iff.mp hs
    exact hun r (hqs ▸ mem_of_rowAt hr) (key_of_rowAt hr)
  have hun₁ := hall.unowned hun₀ hnew
  have hfits : ∀ n ∈ q.position.toList ++ [q.id, v.id], fits n = true := by
    have hv : fits v.id = true := (Tables.updateQuiz_eq_ok.mp hu).1
    intro n hn
    rcases List.mem_append.mp hn with hn | hn
    · exact hfit n (List.mem_cons_of_mem _ hn)
    · rcases List.mem_cons.mp hn with rfl | hn
      · exact hfit q.id List.mem_cons_self
      · rwa [List.mem_singleton.mp hn]
  obtain ⟨⟨q', c₂⟩, hmiss⟩ := Question.place_unowned hall.inv.1 hq hfits fun r hr =>
    hun₁ ⟨r, _⟩ (by rw [Question.view]; exact Option.map_eq_some_iff.mpr ⟨r, hr, rfl⟩)
  refine hrefuse _ _ (v'.questions ++ q' :: rest, c₂) ?_
  rw [eachOf_append_of_ok (q :: rest) hp, eachOf_cons_of_error hmiss]

theorem refuses_choice (hc : c.committed.Sound) {qs rest : List Question} {q : Question}
    {xs ys : List Choice} {x : Choice}
    (h : updateQuiz ⟨clock, .quiet⟩ ({ v with questions := qs ++ [{ q with choices := xs }] }, c) =
      (.ok (), (v', c')))
    (hq : q.id ≠ 0) (hx : x.id ≠ 0) (hfit : fits x.id = true)
    (hun : ∀ r ∈ c.committed.choices, r.id = x.id → r.questionId ≠ q.id)
    (hnew : ¬ Choice.GivenBefore (qs ++ [{ q with choices := xs }]) v'.questions qs.length xs.length
      q.id x.id) :
    (updateQuiz ⟨clock, .quiet⟩
      ({ v with questions := qs ++ { q with choices := xs ++ x :: ys } :: rest }, c)).1 =
        .error (.store (((StoreError.missed .updatingChoice x.id).addContext
          s!"error upserting question {q.id}").addContext s!"error upserting quiz {v.id}")) := by
  obtain ⟨c₀, _, hs₀, _, hxs, hp, hrefuse⟩ := updateQuiz_refuses h hc
  obtain ⟨us, c₁, us', hpre, hlast, heq⟩ := eachOf_append_eq_ok.mp hp
  obtain ⟨q', c₂, _, hplace, hnil, rfl⟩ := eachOf_cons_eq_ok.mp hlast
  cases hnil
  rw [heq] at hnew
  have hall := (Question.view .quiet c₀.working).eachOf_place ⟨hs₀, rfl⟩ hpre
  obtain ⟨_, hpl⟩ := Question.place_ok hall.inv.1 hplace
  obtain ⟨hid, _, _, r, hr, _⟩ := hpl.owned hq
  -- Up to the question the id is not under it, and the choices in front of it do not change that.
  have hun₁ : c₁.working.choiceUnder q.id x.id = none := by
    refine Question.eachOf_choice_unowned hs₀ hpre ?_ fun hg => hnew ?_
    · refine Option.filter_eq_none_iff.mpr fun r hr => ?_
      simpa using hun r (hxs ▸ mem_of_rowAt hr) (key_of_rowAt hr)
    · obtain ⟨m, n, y, y', z, z', hm, hy, hy', hrest⟩ := hg
      have hlt : m < qs.length := by omega
      refine ⟨m, n, y, y', z, z', .inl hlt, ?_, ?_, hrest⟩
      · rw [List.getElem?_append_left hlt, hy]
      · rw [List.getElem?_append_left (by rw [hall.length]; exact hlt), hy']
  obtain ⟨c₃, c₄, hs₃, hxs₃, hxp, hbelow⟩ := Question.place_refuses hall.inv.1 hq hplace
  have hxall := (Choice.view .quiet c₃.working).eachOf_place (Question.around_self hs₃) hxp
  have hun₃ : ∀ r, c₃.working.choiceAt x.id = some r → r.questionId ≠ q.id := by
    intro r hr
    rw [Tables.choiceAt, hxs₃] at hr
    simpa using Option.filter_eq_none_iff.mp hun₁ r hr
  have hnone : ¬ GivenBefore (·.id) xs q'.choices xs.length x.id := by
    rintro ⟨n, hn, y, y', hy, hy', h₀, he⟩
    exact hnew ⟨qs.length, n, { q with choices := xs }, q', y, y', .inr ⟨rfl, hn⟩, by simp,
      by simp [← hall.length], hid, hy, hy', .inr h₀, he⟩
  have hun₄ := hxall.unowned hun₃ hnone
  have hfits : ∀ n ∈ [x.id, q.id], fits n = true := by
    have hqf := hall.inv.1.questions_fit r (mem_of_rowAt hr)
    rw [key_of_rowAt hr] at hqf
    simp [hfit, hqf]
  obtain ⟨⟨x', c₅⟩, hmiss⟩ := Choice.place_unowned hxall.inv.sound hx hfits hun₄
  obtain ⟨⟨q₂, c₆⟩, hrefq⟩ := hbelow (xs ++ x :: ys) _ (q'.choices ++ x' :: ys, c₅)
    (by rw [eachOf_append_of_ok (x :: ys) hxp, eachOf_cons_of_error hmiss])
  refine hrefuse _ _ (us ++ q₂ :: rest, c₆) ?_
  rw [eachOf_append_of_ok _ hpre, eachOf_cons_of_error hrefq]

/-- Updates accept an id that belongs where it is or was given there on the way, and no other. -/
structure ChecksIds (c : Connection) : Prop where
  accepts : ∀ {cond : Conditions} {v v' : Quiz} {c' : Connection},
    updateQuiz cond (v, c) = (.ok (), (v', c')) → v.Owns v' c.committed
  /-- Any other id makes the update fail, which changes nothing. -/
  unchanged : ∀ {cond : Conditions} {v : Quiz} {e : Failure} {y : Quiz × Connection},
    updateQuiz cond (v, c) = (.error e, y) → y.2.committed = c.committed
  /-- Undisturbed, and if all that comes before it can be stored, the question is not found, -/
  question_missed : ∀ {clock : Instant} {v v' : Quiz} {c' : Connection} {qs : List Question}
    {q : Question},
    updateQuiz ⟨clock, .quiet⟩ ({ v with questions := qs }, c) = (.ok (), (v', c')) →
    q.id ≠ 0 → (∀ n ∈ q.id :: q.position.toList, fits n = true) →
    (∀ r ∈ c.committed.questions, r.id = q.id → r.quizId ≠ v.id) →
    ¬ GivenBefore (·.id) qs v'.questions qs.length q.id → ∀ rest,
    (updateQuiz ⟨clock, .quiet⟩ ({ v with questions := qs ++ q :: rest }, c)).1 =
      .error (.store ((StoreError.missed .updatingQuestion q.id).addContext
        s!"error upserting quiz {v.id}"))
  /-- and likewise the choice. -/
  choice_missed : ∀ {clock : Instant} {v v' : Quiz} {c' : Connection} {qs : List Question}
    {q : Question} {xs : List Choice} {x : Choice},
    updateQuiz ⟨clock, .quiet⟩ ({ v with questions := qs ++ [{ q with choices := xs }] }, c) =
      (.ok (), (v', c')) →
    q.id ≠ 0 → x.id ≠ 0 → fits x.id = true →
    (∀ r ∈ c.committed.choices, r.id = x.id → r.questionId ≠ q.id) →
    ¬ Choice.GivenBefore (qs ++ [{ q with choices := xs }]) v'.questions qs.length xs.length
      q.id x.id → ∀ ys rest,
    (updateQuiz ⟨clock, .quiet⟩
      ({ v with questions := qs ++ { q with choices := xs ++ x :: ys } :: rest }, c)).1 =
        .error (.store (((StoreError.missed .updatingChoice x.id).addContext
          s!"error upserting question {q.id}").addContext s!"error upserting quiz {v.id}"))

theorem updateQuiz_checksIds (ht : Reachable c.committed) : ChecksIds c where
  accepts h := updateQuiz_owned ht.sound h
  unchanged {_ v e y} h := (updateQuiz_onFailure (v, c) e y ⟨rfl, trivial⟩ h).committed
  question_missed h hq hfit hun hnew _ := refuses_question ht.sound h hq hfit hun hnew
  choice_missed h hq hx hfit hun hnew _ _ := refuses_choice ht.sound h hq hx hfit hun hnew

/-- A quiz with a new question, and then one under the id that the new one will be given. -/
def foreseeing : Quiz :=
  { Quiz.revised with questions := [.new "New?" 1 [], { Question.new "Foreseen?" 2 [] with id := 4 }] }

theorem updateQuiz_checksIds_demo :
    foreseeing.Owns (updateQuiz .calm (foreseeing, .onto .demo)).2.1 .demo ∧
    (updateQuiz .calm ({ Quiz.revised with questions := [{ Question.new "" 1 [] with id := 9 }] },
      .onto .demo)).1 = .error (.store ((StoreError.missed .updatingQuestion 9).addContext
        s!"error upserting quiz {Quiz.revised.id}")) := by
  have h := updateQuiz_checksIds (c := .onto .demo) reachable_demo
  have hfore : (updateQuiz .calm (foreseeing, .onto .demo)).1 = .ok () := by decide +kernel
  have hnone : (updateQuiz .calm ({ Quiz.revised with questions := [] }, .onto .demo)).1 = .ok () := by
    decide +kernel
  refine ⟨h.accepts (Prod.ext hfore rfl), ?_⟩
  refine h.question_missed (Prod.ext hnone rfl) (by decide) (by decide) ?_ ?_ []
  · have hno : ∀ r ∈ Tables.demo.questions, r.id = 9 → r.quizId ≠ 1 := by decide +kernel
    exact hno
  · rintro ⟨_, hj, _⟩
    exact absurd hj (Nat.not_lt_zero _)

/-- Not every id in a quiz that is accepted was stored under the quiz before. -/
theorem not_only_stored_ids : ¬ ∀ t, Reachable t → ∀ (cond : Conditions) (v v' : Quiz) c',
    updateQuiz cond (v, .onto t) = (.ok (), (v', c')) →
      ∀ q ∈ v.questions, q.id ≠ 0 → ∃ r ∈ t.questions, r.id = q.id ∧ r.quizId = v.id := by
  intro h
  have hok : (updateQuiz .calm (foreseeing, .onto .demo)).1 = .ok () := by decide +kernel
  have hno : ∀ r ∈ Tables.demo.questions, r.id ≠ 4 := by decide +kernel
  obtain ⟨r, hr, hid, _⟩ := h .demo reachable_demo .calm foreseeing _ _ (Prod.ext hok rfl)
    { Question.new "Foreseen?" 2 [] with id := 4 }
    (List.mem_cons_of_mem _ List.mem_cons_self) (by decide)
  exact hno r hr hid

end Store

end TriviaStore
