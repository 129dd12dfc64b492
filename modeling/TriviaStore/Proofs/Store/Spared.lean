import TriviaStore.Proofs.Reconcile.Visited
import TriviaStore.Proofs.Store.Authored
import TriviaStore.Proofs.Store.Views

/-! # What writes spare

Writes fill ids and parents into the entity passed to them while they store it, node by node. A write that
fails has not touched the nodes that it has not got to, and no write changes an id that was there when its
node was stored.
-/

namespace TriviaStore

open Attempt

variable {τ : Type} {plan : Plan Statement} {cond : Conditions}

/-! ## Choices -/

theorem Choice.visits : (Choice.reconciler plan).Visits .choices .choice (fun _ => []) fun _ => [] where
  id _ := rfl
  tabled _ := rfl
  attach _ _ := ⟨rfl, rfl, rfl⟩
  prepares _ := .nil
  old _ _ := rfl
  reset x _ _ := ⟨x, rfl, rfl⟩
  create x c := by
    refine ⟨?_, rfl⟩
    exact (congrArg Connection.stores (assigning_connection (x, c))).trans Connection.stores_insert
  update _ _ _ := ⟨Connection.stores_update, rfl, rfl⟩
  descend _ _ := ⟨⟨[], (List.append_nil _).symm, .nil, fun _ => rfl⟩, rfl⟩
  existing _ _ := Connection.stores_query
  delete _ _ := Connection.stores_delete
  note _ _ := rfl

/-! ## Questions -/

namespace Question

/-- The question as it is prepared: under a new question the choices are forgotten. -/
def prepared (q : Question) : Question := { q with choices := q.desired }

/-- The nodes below the question. -/
abbrev below (q : Question) : List Node := q.choices.flatMap Choice.nodes

theorem prepared_new {q : Question} (hq : q.id = 0) : q.prepared = q.forgetChoices := by
  rw [prepared, desired, if_pos hq]
  rfl

theorem prepared_old {q : Question} (hq : q.id ≠ 0) : q.prepared = q := by rw [prepared, desired_old hq]

theorem prepared_forget (q : Question) : q.forget.prepared = q.forget := by
  have hagain : q.forget.forgetChoices = q.forget := by
    simp [forget, forgetChoices, Choice.forget]
  rw [prepared_new rfl, hagain]

theorem prepared_below (q : Question) : Prepared q.prepared.below q.below := by
  by_cases hq : q.id = 0
  · rw [prepared_new hq]
    show Prepared ((q.choices.map Choice.forget).flatMap Choice.nodes) q.below
    rw [List.flatMap_map]
    exact prepared_flatMap (fun x => .cons (fun hx => absurd rfl hx) .nil) q.choices
  · rw [prepared_old hq]
    exact prepared_self _

theorem prepared_nodes (q : Question) : Prepared q.prepared.nodes q.nodes :=
  .cons (fun _ => rfl) q.prepared_below

theorem stores_update (parent : Option Int) (q : Question) (c : Connection) :
    (update plan parent (q, c)).2.2.stores = c.stores ++ [.update .questions] := by
  have howner (l : List Statement) : (findOwner plan).Keeps (OnSecond (·.stores = l)) := by
    intro x hx
    show (findOwner plan x).2.2.stores = l
    rw [findOwner_connection, Connection.stores_query]
    exact hx
  unfold update
  rw [bind_of_ok (read_run _)]
  refine keeps_after (P := OnSecond fun c' : Connection => c'.stores = c.stores ++ [.update .questions])
    ?_ fun rows => ?_
  · exact Connection.stores_update
  · dsimp only
    split
    · exact (howner _).bind fun _ => keeps_pure rows
    · exact keeps_pure rows

theorem visits : (reconciler plan).Visits .questions node below fun q => q.prepared.below where
  id _ := rfl
  tabled _ := rfl
  attach _ _ := ⟨rfl, rfl, rfl⟩
  prepares := prepared_below
  old q hq := by rw [prepared_old hq]
  reset q c hq := ⟨q.forgetChoices, rfl, by rw [prepared_new hq]⟩
  create q c := by
    have hbelow : (reconciler plan).create.Fixes below := fixes_assigning fun _ _ => rfl
    refine ⟨?_, hbelow.run q c⟩
    exact (congrArg Connection.stores (assigning_connection (q, c))).trans Connection.stores_insert
  update parent q c := ⟨stores_update parent q c, (update_fixes (fun _ _ => rfl) parent).run q c,
    (update_fixes (f := fun q => q.node.detached) (fun _ _ => rfl) parent).run q c⟩
  descend q c := ⟨(Choice.visits.reconcile q.id q.choices c).transfer rfl rfl isOk_of_map, rfl⟩
  existing _ _ := Connection.stores_query
  delete _ _ := Connection.stores_delete
  note _ _ := rfl

end Question

/-! ## Quizzes -/

namespace Quiz

/-- The quiz as it is prepared. -/
def prepared (v : Quiz) : Quiz := { v with questions := v.questions.map Question.prepared }

/-- The nodes below the quiz. -/
abbrev below (v : Quiz) : List Node := v.questions.flatMap Question.nodes

theorem prepared_forget (v : Quiz) : v.forget.prepared = v.forget := by
  simp [prepared, forget, Function.comp_def, Question.prepared_forget]

theorem below_prepared (v : Quiz) : v.prepared.below = v.questions.flatMap fun q => q.prepared.nodes :=
  List.flatMap_map ..

theorem prepared_below (v : Quiz) : Prepared v.prepared.below v.below := by
  rw [below_prepared]
  exact prepared_flatMap Question.prepared_nodes v.questions

theorem prepared_nodes (v : Quiz) : Prepared v.prepared.nodes v.nodes :=
  .cons (fun _ => rfl) v.prepared_below

end Quiz

namespace Store

variable {v : Quiz} {c : Connection}

theorem stores_insertQuiz {now : Moment} (hnow : Moment.now? cond.clock = some now) :
    (insertQuiz cond (v, c)).2.2.stores = c.stores ++ [.insert .quizzes] := by
  rw [insertQuiz_connection hnow, Connection.stores_insert]

theorem stores_overwriteQuiz :
    (overwriteQuiz cond (v, c)).2.2.stores = c.stores ++ [.update .quizzes] := by
  unfold overwriteQuiz
  rw [bind_of_ok (read_run _)]
  refine keeps_after (P := OnSecond fun c' : Connection => c'.stores = c.stores ++ [.update .quizzes])
    ?_ fun rows => ?_
  · show (mapFailure _ _ c).2.stores = _
    rw [mapFailure_snd]
    exact Connection.stores_update
  · split
    · exact keeps_fail _
    · exact keeps_pure ()

/-- Once a quiz's row is stored, what is below it is visited. -/
theorem descends {v₁ : Quiz} {c₁ : Connection} (m : Quiz × Connection → String)
    (hstores : c₁.stores = c.stores ++ [v.node.statement]) (hquestions : v₁.questions = v.questions)
    (hkept : v.node.id ≠ 0 → v₁.node.detached = v.node.detached) :
    Enters Quiz.node Quiz.below v.node v.prepared.below v.below c.stores
      ((reconcileQuestions cond).inContext m (v₁, c₁)) := by
  have hvisits : (Question.reconciler cond.plan).Visits .questions Question.node Question.below
      fun q => q.prepared.below := Question.visits
  have hbelow : Traverses Quiz.below v.prepared.below v.below (c.stores ++ [v.node.statement])
      (reconcileQuestions cond (v₁, c₁)) := by
    rw [v.below_prepared, Quiz.below, ← hquestions, ← hstores]
    exact (hvisits.reconcile v₁.id v₁.questions c₁).transfer rfl rfl isOk_of_map
  refine ⟨hbelow.mapFailure, fun hid => ?_⟩
  rw [inContext, mapFailure_snd]
  exact hkept hid

/-- A quiz that is stored is visited with everything below it. -/
theorem upsertQuiz_visits (v : Quiz) (c : Connection) :
    Traverses Quiz.nodes v.prepared.nodes v.nodes c.stores (upsertQuiz cond (v, c)) := by
  unfold upsertQuiz
  rw [bind_of_ok (read_run _)]
  dsimp only
  split
  · rename_i hnew
    have hkept {m : Node} (hne : v.node.id ≠ 0) : m = v.node.detached := absurd hnew hne
    have hstatement : v.node.statement = .insert .quizzes := if_pos hnew
    rcases hnow : Moment.now? cond.clock with _ | now
    · -- The clock fails before anything is stored.
      rw [bind_of_error (insertQuiz_undated hnow _)]
      exact traverses_passed v.prepared_nodes rfl rfl
    have hstores : (insertQuiz cond (v, c)).2.2.stores = _ := stores_insertQuiz hnow
    have hquestions : (insertQuiz cond (v, c)).2.1.questions = v.questions :=
      (fixes_insertQuiz (f := Quiz.questions) fun _ _ _ => rfl).run v c
    rw [← hstatement] at hstores
    refine (enters_bind hstores ?_ hkept fun _ y hinsert => ?_).whole v.node
    · show Visited _ _ (List.flatMap Question.nodes _) _
      rw [hquestions]
      exact .passed v.prepared_below
    · rw [hinsert] at hstores hquestions
      exact descends _ hstores hquestions hkept
  · rename_i hold
    have hstatement : v.node.statement = .update .quizzes := if_neg hold
    have hstores : (overwriteQuiz cond (v, c)).2.2.stores = _ := stores_overwriteQuiz
    have hsame : (overwriteQuiz cond (v, c)).2.1 = v := (fixes_overwriteQuiz (f := id)).run v c
    rw [← hstatement] at hstores
    refine (enters_bind hstores ?_ (fun _ => ?_) fun _ y hover => ?_).whole v.node
    · rw [hsame]
      exact .passed v.prepared_below
    · rw [hsame]
    · rw [hover] at hstores hsame
      exact descends _ hstores (congrArg Quiz.questions hsame) fun _ => congrArg (·.node.detached) hsame

end Store

/-! ## Writes -/

theorem Connection.commit_silent : ((session plan).alongside (τ := τ)).commit.Silent := by
  have hcommit (l : List Statement) : (session plan).commit.Keeps (·.stores = l) :=
    stores_issue (fun _ => rfl) rfl l
  exact silent_onSecond hcommit

/-- A session stores no node by itself. -/
theorem Connection.session_silent (x : τ × List Statement) :
    ((session plan).alongside (τ := τ)).Shields (traced · = x) where
  acquire := silent_onSecond (fun _ _ hc => hc) x
  begin := by
    have hbegin (l : List Statement) : (session plan).begin.Keeps (·.stores = l) :=
      stores_issue (fun _ => rfl) rfl l
    exact silent_onSecond hbegin x
  rollback := by
    have hrollback (l : List Statement) : (session plan).rollback.Keeps (·.stores = l) :=
      stores_issue (fun _ => rfl) rfl l
    exact silent_onSecond hrollback x
  close := silent_onSecond (fun _ _ hc => hc) x
  note _ _ hy := hy
  commit_error y e y' hy h := by
    have hkept : traced ((session plan).alongside.commit y).2 = x := commit_silent x y hy
    rwa [h] at hkept

namespace Store

variable {nodes : τ → List Node} {rs : List Node} {t : τ} {c : Connection}
  {work : Attempt (τ × Connection) Unit}

/-- A write in a transaction visits what it would visit without. -/
theorem traverses_transacting (hprepared : Prepared rs (nodes t))
    (h : ∀ c, Traverses nodes rs (nodes t) c.stores (work (t, c))) :
    Traverses nodes rs (nodes t) c.stores (transacting plan work (t, c)) := by
  obtain ⟨herror, hsame⟩ | ⟨⟨t₁, c₁⟩, hstart, hend, hok⟩ :
      ((transacting plan work (t, c)).1.isOk = false ∧
        traced (transacting plan work (t, c)).2 = traced (t, c)) ∨
      ∃ y, traced y = traced (t, c) ∧ traced (transacting plan work (t, c)).2 = traced (work y).2 ∧
        ((transacting plan work (t, c)).1.isOk = true → (work y).1.isOk = true) :=
    SessionCalls.transaction_around Connection.session_silent Connection.session_closes.alongside
      Connection.commit_silent (t, c)
  · exact traverses_passed hprepared hsame herror
  · obtain ⟨rfl, hc⟩ := Prod.mk.inj hstart
    obtain ⟨ht, hc'⟩ := Prod.mk.inj hend
    rw [← show c₁.stores = c.stores from hc]
    exact (h c₁).transfer (congrArg nodes ht) hc' hok

theorem announce_silent (event : τ → Event) : (announce event).Silent := fun _ _ hy => hy

theorem createQuiz_visits (v : Quiz) (c : Connection) :
    Traverses Quiz.nodes v.forget.nodes v.forget.nodes c.stores (createQuiz cond (v, c)) := by
  have hprepared := v.forget.prepared_nodes
  have hupsert (c : Connection) : Traverses Quiz.nodes v.forget.prepared.nodes v.forget.nodes c.stores
      (upsertQuiz cond (v.forget, c)) := upsertQuiz_visits v.forget c
  rw [v.prepared_forget] at hprepared hupsert
  unfold createQuiz
  rw [bind_of_ok (update_run _ _)]
  exact (traverses_transacting hprepared hupsert).bind fun _ => announce_silent _

theorem updateQuiz_visits (v : Quiz) (c : Connection) :
    Traverses Quiz.nodes v.prepared.nodes v.nodes c.stores (updateQuiz cond (v, c)) := by
  unfold updateQuiz
  rw [bind_of_ok (read_run _)]
  dsimp only
  split
  · exact traverses_passed v.prepared_nodes rfl rfl
  · exact (traverses_transacting v.prepared_nodes (upsertQuiz_visits v)).bind fun _ => announce_silent _

/-- A question that is stored by itself is visited with everything below it. -/
theorem upsertQuestion_visits (q : Question) (c : Connection) :
    Traverses Question.nodes q.prepared.nodes q.nodes c.stores
      ((Question.reconciler plan).upsert none (q, c)) :=
  (Question.visits.upsert none q c).whole q.node

theorem createQuestion_visits (q : Question) (c : Connection) :
    Traverses Question.nodes q.forget.nodes q.forget.nodes c.stores (createQuestion cond (q, c)) := by
  have hprepared := q.forget.prepared_nodes
  have hupsert (c : Connection) : Traverses Question.nodes q.forget.prepared.nodes q.forget.nodes c.stores
      ((Question.reconciler cond.plan).upsert none (q.forget, c)) := upsertQuestion_visits q.forget c
  rw [q.prepared_forget] at hprepared hupsert
  unfold createQuestion
  rw [bind_of_ok (update_run _ _)]
  exact (traverses_transacting hprepared hupsert).bind fun _ => announce_silent _

theorem updateQuestion_visits (q : Question) (c : Connection) :
    Traverses Question.nodes q.prepared.nodes q.nodes c.stores (updateQuestion cond (q, c)) := by
  unfold updateQuestion
  rw [bind_of_ok (read_run _)]
  dsimp only
  split
  · exact traverses_passed q.prepared_nodes rfl rfl
  · exact (traverses_transacting q.prepared_nodes (upsertQuestion_visits q)).bind fun _ => announce_silent _

/-- Updating a quiz leaves its creation time as it was passed. -/
theorem createdAt_updateQuiz (v : Quiz) (c : Connection) :
    (updateQuiz cond (v, c)).2.1.createdAt = v.createdAt := by
  by_cases hv : v.id = 0
  · unfold updateQuiz
    rw [bind_of_ok (read_run _)]
    dsimp only
    rw [if_pos hv]
    rfl
  · obtain ⟨_, _, hvisited, _⟩ : Traverses Quiz.nodes v.prepared.nodes v.nodes c.stores
      (updateQuiz cond (v, c)) := updateQuiz_visits v c
    have hnode : Node.quiz { (updateQuiz cond (v, c)).2.1 with questions := [] } =
      .quiz { v with questions := [] } := (List.forall₂_cons.mp hvisited.kept).1 hv
    have hcreated := congrArg Quiz.createdAt (Node.quiz.inj hnode)
    exact hcreated

end Store

/-! ## What is left of an entity -/

/-- What a run leaves of an entity, whatever its outcome. Its nodes are stored in order as they were
prepared, and the inserts and updates that were issued tell how far the run got: it has failed at the last
node that was stored, or in listing or deleting rows before the next one, and what comes after is left
alone. -/
structure Spares (nodes : τ → List Node) (prepared passed : τ) (c : Connection)
    (y : Except Failure Unit × (τ × Connection)) : Prop where
  /-- A node with an id keeps everything but the parent that it names. -/
  kept : List.Forall₂ (fun r n => r.id ≠ 0 → n.detached = r.detached) (nodes prepared) (nodes y.2.1)
  /-- The first `k` nodes have been got to, all of them if the run has succeeded. -/
  reached : ∃ k ≤ (nodes prepared).length,
    y.2.2.stores = c.stores ++ ((nodes prepared).take k).map Node.statement ∧
    (y.1.isOk = true → k = (nodes prepared).length) ∧
    ∀ i, k ≤ i → (nodes y.2.1)[i]? = (nodes passed)[i]? ∨ (nodes y.2.1)[i]? = (nodes prepared)[i]?

theorem Traverses.spares {nodes : τ → List Node} {prepared passed : τ} {c : Connection}
    {y : Except Failure Unit × (τ × Connection)}
    (h : Traverses nodes (nodes prepared) (nodes passed) c.stores y) : Spares nodes prepared passed c y := by
  obtain ⟨w, hw, hvisited, hall⟩ := h
  have hprefix := hvisited.statements
  refine ⟨hvisited.kept, w.length, ?_, ?_, hall, fun i => hvisited.spared⟩
  · simpa using hprefix.length_le
  · rw [hw, List.map_take, ← List.prefix_iff_eq_take.mp hprefix]

/-- What the writes leave of an entity passed to them. Ids that are passed to a creation are forgotten at
first, and so are those of the choices under a question without an id. -/
structure Store.Sparing (cond : Conditions) (c : Connection) : Prop where
  createQuiz (v : Quiz) : (Store.createQuiz cond (v, c)).2.1.authored = v.authored ∧
    Spares Quiz.nodes v.forget v.forget c (Store.createQuiz cond (v, c))
  updateQuiz (v : Quiz) : (Store.updateQuiz cond (v, c)).2.1.authored = v.authored ∧
    (Store.updateQuiz cond (v, c)).2.1.createdAt = v.createdAt ∧
    Spares Quiz.nodes v.prepared v c (Store.updateQuiz cond (v, c))
  createQuestion (q : Question) : (Store.createQuestion cond (q, c)).2.1.authored = q.authored ∧
    Spares Question.nodes q.forget q.forget c (Store.createQuestion cond (q, c))
  updateQuestion (q : Question) : (Store.updateQuestion cond (q, c)).2.1.authored = q.authored ∧
    Spares Question.nodes q.prepared q c (Store.updateQuestion cond (q, c))

/-- On every connection, under every plan of disturbances and whatever the outcome, a write changes nothing
of the entity passed to it but ids, the parents that are named and the creation time of a new quiz. Ids that
are there when a node is stored stay, and the nodes after the last one that was got to are as they were
passed. -/
theorem Store.writes_spare (cond : Conditions) (c : Connection) : Store.Sparing cond c where
  createQuiz v := ⟨fixes_createQuiz.run v c, (createQuiz_visits v c).spares⟩
  updateQuiz v := ⟨fixes_updateQuiz.run v c, createdAt_updateQuiz v c, (updateQuiz_visits v c).spares⟩
  createQuestion q := ⟨fixes_createQuestion.run q c, (createQuestion_visits q c).spares⟩
  updateQuestion q := ⟨fixes_updateQuestion.run q c, (updateQuestion_visits q c).spares⟩

end TriviaStore
