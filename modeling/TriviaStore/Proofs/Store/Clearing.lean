import TriviaStore.Proofs.Store.Leftovers

/-! # Clearing leftovers

From a store that can be reached, every row that a write comes to delete is still stored under the parent
under which it was left over, whatever the plan. If nothing is disturbed, no write and no series of calls
in one transaction fails for want of such a row, or of the transaction itself.
-/

namespace TriviaStore

open Attempt

variable {plan : Plan Statement} {cond : Conditions} {c c' : Connection} {p i : Int}
  {parent : Option Int} {d : Leftover} {e : Failure}

/-! ## Rows that are left over -/

/-- The tables of the session are sound, whatever is committed. -/
abbrev Connection.HoldsSound (c : Connection) : Prop := Holds (fun _ => True) Tables.Sound c

theorem Choice.deletes_stored (hs : c.HoldsSound) {xs : List Choice}
    (h : (reconciler plan).Deletes p xs c i c') : (Leftover.choice p i).StoredIn c'.working := by
  obtain ⟨hc', r, hr, hp⟩ := (view plan c.working).deletes ⟨hs.working, rfl, rfl⟩ h
  obtain ⟨hmem, hid⟩ := hc'.sound.choices.rowAt_eq_some.mp hr
  exact ⟨r, hmem, hid, hp⟩

namespace Question

theorem reconciler_holdsSound : (reconciler plan).Keeps Connection.HoldsSound :=
  reconciler_keeps (Tables.Sound.closed ⟨0⟩).toClosedBelow

theorem deletes_stored (hs : c.HoldsSound) {qs : List Question}
    (h : (reconciler plan).Deletes p qs c i c') : (Leftover.question p i).StoredIn c'.working := by
  obtain ⟨hc', q, hq, hp⟩ := (view plan c.working).deletes ⟨hs.working, rfl⟩ h
  obtain ⟨r, hr, rfl⟩ := Option.map_eq_some_iff.mp hq
  obtain ⟨hmem, hid⟩ := hc'.1.questions.rowAt_eq_some.mp hr
  exact ⟨r, hmem, hid, hp⟩

theorem UpsertDeletes.stored {x : Question × Connection} (h : UpsertDeletes plan parent x d c')
    (hs : x.2.HoldsSound) : d.StoredIn c'.working := by
  cases h with
  | below writes deletes => exact Choice.deletes_stored (reconciler_holdsSound.writes writes hs) deletes

theorem ReconcileDeletes.stored {qs : List Question} (h : ReconcileDeletes plan p qs c d c')
    (hs : c.HoldsSound) : d.StoredIn c'.working := by
  cases h with
  | own deletes => exact deletes_stored hs deletes
  | below reaches deletes => exact deletes.stored (reconciler_holdsSound.reaches reaches hs)

end Question

theorem Store.holdsSound_writeQuiz {x y : Quiz × Connection} (h : writeQuiz cond x = (.ok (), y))
    (hs : x.2.HoldsSound) : y.2.HoldsSound := by
  have hy : y = (writeQuiz cond x).2 := (congrArg Prod.snd h).symm
  rw [hy]
  unfold writeQuiz
  split
  · exact keeps_insertQuiz (Tables.Sound.closed _) x hs
  · exact keeps_overwriteQuiz (Tables.Sound.closed _) x hs

theorem Store.UpsertDeletes.stored {x : Quiz × Connection} (h : UpsertDeletes cond x d c')
    (hs : x.2.HoldsSound) : d.StoredIn c'.working := by
  cases h with
  | below written deletes => exact deletes.stored (holdsSound_writeQuiz written hs)

theorem Task.holdsSound_run {tasks done : List Task} {answers : List Task.Answer}
    {r : Except Failure Unit} (h : eachOf (Task.run plan) tasks ([], c) = (r, (done, (answers, c'))))
    (hs : c.HoldsSound) : c'.HoldsSound := by
  have hkeeps : (Task.run plan).Keeps (OnSecond (OnSecond Connection.HoldsSound)) :=
    Task.keeps_run (Tables.Sound.closed ⟨0⟩).toClosedBelow
  have hdone := hkeeps.eachOf tasks (s := ([], c)) hs
  rw [h] at hdone
  exact hdone

theorem Task.Deletes.stored {task : Task} (h : task.Deletes plan c d c') (hs : c.HoldsSound) :
    d.StoredIn c'.working := by
  cases h with
  | reconcileQuestions deletes => exact deletes.stored hs
  | reconcileChoices deletes => exact Choice.deletes_stored hs deletes
  | upsertQuestion deletes => exact deletes.stored hs

theorem Connection.Begun.holdsSound {c₁ : Connection} (h : c.Begun plan c₁) (hs : c.committed.Sound) :
    c₁.HoldsSound := by
  refine ⟨trivial, ?_⟩
  rw [begin_ok h]
  exact hs

/-- A row that is left over is still there when it is deleted. -/
theorem Write.Deletes.stored {w : Write} (h : w.Deletes cond c d c') (hs : c.committed.Sound) :
    d.StoredIn c'.working := by
  cases h with
  | createQuiz begun deletes => exact deletes.stored (begun.holdsSound hs)
  | updateQuiz _ begun deletes => exact deletes.stored (begun.holdsSound hs)
  | createQuestion begun deletes => exact deletes.stored (begun.holdsSound hs)
  | updateQuestion _ begun deletes => exact deletes.stored (begun.holdsSound hs)
  | batch begun performed deletes => exact deletes.stored (Task.holdsSound_run performed (begun.holdsSound hs))

/-! ## Undisturbed failures -/

/-- What the tables refuse is not blamed on a disturbance. -/
theorem Tables.Refusal.isDisturbed {ns : List Int} (h : Refusal ns e) : e.isDisturbed = false := by
  cases h <;> rfl

namespace Connection

variable {α : Type} {table : Table} {ns : List Int}

theorem query_undisturbed {read : Tables → Except Failure α}
    (hread : ∀ t, Tables.Refuses ns (read t)) (h : query .quiet table read c = (.error e, c')) :
    e.isDisturbed = false := by
  rcases issue_error h with h | h
  · cases h
  · exact (hread _ e (Prod.mk.inj h).1).isDisturbed

theorem insert_undisturbed {change : Tables → Except Failure (Int × Tables)}
    (hchange : ∀ t, Tables.Refuses ns (change t))
    (h : insert .quiet table change c = (.error e, c')) : e.isDisturbed = false := by
  rcases issue_error h with h | h
  · cases h
  · exact (hchange _ e (apply_error h)).isDisturbed

theorem write_undisturbed {s : Statement} {change : Tables → Except Failure (Nat × Tables)}
    (hchange : ∀ t, Tables.Refuses ns (change t))
    (h : write .quiet s change c = (.error e, c')) : e.isDisturbed = false := by
  have hissue : issue .quiet s (apply change) c = (.error e, c') := h
  rcases issue_error hissue with h | h
  · cases h
  · exact (hchange _ e (apply_error h)).isDisturbed

/-- Undisturbed, a statement counts the rows that the tables count. -/
theorem write_quiet_ok {s : Statement} {change : Tables → Except Failure (Nat × Tables)} {n : Nat}
    (h : write .quiet s change c = (.ok n, c')) : change c.working = .ok (n, c'.working) := by
  have hissue : issue .quiet s (apply change) c = (.ok n, c') := h
  have happly := apply_ok (issue_ok hissue)
  exact happly

end Connection

/-- A number that is named may fit or not. -/
theorem Fitting.self (n : Int) : Fitting [n] n := .of_mem (List.mem_singleton.mpr rfl)

theorem Choice.reconciler_undisturbed (T : Tables) :
    (reconciler .quiet).Undisturbed (view .quiet T) where
  existing {p _ _ _} h := by
    rw [reconciler_existing] at h
    exact Connection.query_undisturbed (fun _ => (Tables.choicesOf_refuses (.self p)).map) h
  reset h := by cases h
  create {x _ _} h := by
    rw [reconciler_create] at h
    obtain ⟨_, h, -⟩ := assigning_eq_error.mp h
    exact Connection.insert_undisturbed (fun _ => Tables.insertChoice_refuses _ _ (.self _)) h
  update {parent x y _} h := by
    dsimp only [reconciler] at h
    obtain ⟨h, -⟩ := Prod.mk.inj h
    have hrefuses (t : Tables) : Tables.Refuses (x.1.id :: parent.toList)
        (t.updateChoice x.1.id parent x.1.text x.1.correct) :=
      Tables.updateChoice_refuses _ _ (.of_mem List.mem_cons_self)
        fun _ hn => .of_mem (List.mem_cons_of_mem _ (Option.mem_toList.mpr hn))
    exact Connection.write_undisturbed hrefuses (Prod.ext h rfl)
  delete {i _ _ _} h :=
    Connection.write_undisturbed (fun _ => Tables.deleteChoice_refuses (.self i)) h
  notUpdated _ := rfl
  found {i c c' r} hc hr h := by
    obtain ⟨hmem, hid⟩ := hc.sound.choices.rowAt_eq_some.mp hr
    have hdelete : c.working.deleteChoice i = .ok (0, c'.working) := Connection.write_quiet_ok h
    obtain ⟨-, ⟨hnone, -⟩ | ⟨-, hone, -⟩⟩ := Tables.deleteChoice_eq_ok.mp hdelete
    · exact hnone r hmem hid
    · cases hone

namespace Question

theorem update_undisturbed {x y : Question × Connection}
    (h : update .quiet parent x = (.error e, y)) : e.isDisturbed = false := by
  obtain ⟨q, c⟩ := x
  obtain ⟨q', c'⟩ := y
  unfold update at h
  rw [bind_of_ok (read_run _)] at h
  rcases bind_eq_error.mp h with hwrite | ⟨n, ⟨_, c₁⟩, -, h⟩
  · have hrefuses (t : Tables) : Tables.Refuses (q.position.toList ++ q.id :: parent.toList)
        (t.updateQuestion q.id parent q.text q.imageUrl q.position) := by
      apply Tables.updateQuestion_refuses
      · exact .of_mem (by simp)
      · exact fun _ hn => .of_mem (by simp [Option.mem_def.mp hn])
      · exact fun _ hn => .of_mem (by simp [Option.mem_def.mp hn])
    exact Connection.write_undisturbed hrefuses (onSecond_eq_error.mp hwrite).1
  · split at h
    · rcases bind_eq_error.mp h with hfind | ⟨_, _, _, h⟩
      · dsimp only [findOwner] at hfind
        split at hfind
        · cases hfind
        · cases hfind
        · rename_i hquery
          cases hfind
          exact Connection.query_undisturbed (fun _ => Tables.question?_refuses (.self _)) hquery
      · cases h
    · cases h

theorem reconciler_undisturbed (T : Tables) :
    (reconciler .quiet).Undisturbed (view .quiet T) where
  existing {p _ _ _} h := by
    rw [reconciler_existing] at h
    exact Connection.query_undisturbed (fun _ => (Tables.questionsOf_refuses (.self p)).map) h
  reset h := by cases h
  create {x _ _} h := by
    rw [reconciler_create] at h
    obtain ⟨_, h, -⟩ := assigning_eq_error.mp h
    have hrefuses (t : Tables) : Tables.Refuses (x.1.quizId :: x.1.position.toList)
        (t.insertQuestion x.1.quizId x.1.text x.1.imageUrl x.1.position) :=
      Tables.insertQuestion_refuses _ _ (.of_mem List.mem_cons_self)
        fun _ hn => .of_mem (List.mem_cons_of_mem _ (Option.mem_toList.mpr hn))
    exact Connection.insert_undisturbed hrefuses h
  update := update_undisturbed
  delete {i _ _ _} h :=
    Connection.write_undisturbed (fun _ => Tables.deleteQuestion_refuses (.self i)) h
  notUpdated _ := rfl
  found {i c c' r} hc hr h := by
    obtain ⟨row, hrow, rfl⟩ := Option.map_eq_some_iff.mp hr
    obtain ⟨hmem, hid⟩ := hc.1.questions.rowAt_eq_some.mp hrow
    have hdelete : c.working.deleteQuestion i = .ok (0, c'.working) := Connection.write_quiet_ok h
    obtain ⟨-, ⟨hnone, -⟩ | ⟨-, hone, -⟩⟩ := Tables.deleteQuestion_eq_ok.mp hdelete
    · exact hnone row hmem hid
    · cases hone

end Question

/-! ## Whole reconciliations -/

theorem Choice.reconcile_undisturbed (hs : c.HoldsSound) {xs : List Choice} {y : List Choice × Connection}
    (h : (reconciler .quiet).reconcile p (xs, c) = (.error e, y)) : e.isDisturbed = false := by
  refine (reconciler_undisturbed c.working).reconcile ⟨hs.working, rfl, rfl⟩ (fun hbelow => ?_) h
  cases hbelow.descend.1

namespace Question

theorem descend_undisturbed {z y : Question × Connection} (hs : z.2.HoldsSound)
    (h : (reconciler .quiet).descend z = (.error e, y)) : e.isDisturbed = false := by
  obtain ⟨_, _, hchoices, -⟩ := reconcileChoices_eq_error.mp h
  exact Choice.reconcile_undisturbed hs hchoices

theorem upsert_undisturbed {q : Question} {y : Question × Connection} (hs : c.HoldsSound)
    (h : (reconciler .quiet).upsert parent (q, c) = (.error e, y)) : e.isDisturbed = false :=
  (reconciler_undisturbed c.working).upsert
    (fun writes => descend_undisturbed (reconciler_holdsSound.writes writes hs)) h

theorem reconcile_undisturbed (hs : c.HoldsSound) {qs : List Question} {y : List Question × Connection}
    (h : (reconciler .quiet).reconcile p (qs, c) = (.error e, y)) : e.isDisturbed = false := by
  refine (reconciler_undisturbed c.working).reconcile ⟨hs.working, rfl⟩ (fun hbelow => ?_) h
  cases hbelow with
  | intro reaches writes descend =>
    exact descend_undisturbed (reconciler_holdsSound.writes writes (reconciler_holdsSound.reaches reaches hs)) descend

end Question

namespace Store

variable {clock : Instant}

theorem RowFails.isDisturbed {x y : Quiz × Connection} (h : RowFails ⟨clock, .quiet⟩ x e y) :
    e.isDisturbed = false := by
  cases h with
  | dating => rfl
  | inserting _ _ insert =>
    exact (Failure.isDisturbed_wrappedIn _ _).trans (Connection.insert_undisturbed
      (fun _ => Tables.insertQuiz_refuses _ _ _ (.self _)) insert)
  | updating _ update =>
    exact (Failure.isDisturbed_wrappedIn _ _).trans (Connection.write_undisturbed
      (fun _ => Tables.updateQuiz_refuses _ _ _ (.self _)) update)
  | missing => rfl

theorem upsertQuiz_undisturbed {v : Quiz} {y : Quiz × Connection} (hs : c.HoldsSound)
    (h : upsertQuiz ⟨clock, .quiet⟩ (v, c) = (.error e, y)) : e.isDisturbed = false := by
  rw [upsertQuiz_eq, bind_eq_error, writeQuiz_eq_error] at h
  rcases h with hrow | ⟨_, ⟨v₁, c₁⟩, written, h⟩
  · exact hrow.isDisturbed
  · obtain ⟨f, hf, rfl⟩ := inContext_eq_error.mp h
    obtain ⟨_, _, hr, -⟩ := reconcileQuestions_eq_error.mp hf
    have hsound : c₁.HoldsSound := holdsSound_writeQuiz written hs
    exact (Failure.isDisturbed_under _ _).trans (Question.reconcile_undisturbed hsound hr)

end Store

theorem Task.perform_undisturbed {task task' : Task} (hs : c.HoldsSound)
    (h : task.perform .quiet c = (.error e, (task', c'))) : e.isDisturbed = false := by
  cases task with
  | reconcileQuestions p qs =>
    dsimp only [Task.perform] at h
    rcases hr : (Question.reconciler .quiet).reconcile p (qs, c) with ⟨f | ids, y⟩ <;> rw [hr] at h <;>
      cases h
    exact Question.reconcile_undisturbed hs hr
  | reconcileChoices p xs =>
    dsimp only [Task.perform] at h
    rcases hr : (Choice.reconciler .quiet).reconcile p (xs, c) with ⟨f | ids, y⟩ <;> rw [hr] at h <;>
      cases h
    exact Choice.reconcile_undisturbed hs hr
  | upsertQuestion parent q =>
    dsimp only [Task.perform] at h
    rcases hr : (Question.reconciler .quiet).upsert parent (q, c) with ⟨f | _, y⟩ <;> rw [hr] at h <;>
      cases h
    exact Question.upsert_undisturbed hs hr
  | upsertChoice parent x =>
    dsimp only [Task.perform] at h
    rcases hr : (Choice.reconciler .quiet).upsert parent (x, c) with ⟨f | _, y⟩ <;> rw [hr] at h <;>
      cases h
    refine (Choice.reconciler_undisturbed c.working).upsert (fun _ descend => ?_) hr
    cases descend

/-! ## Whole writes -/

namespace SessionCalls

variable {σ τ α : Type} {calls : SessionCalls σ} {work : Attempt σ α} {s : σ}

/-- Beginning, committing and rolling back never fail. -/
structure Sure (calls : SessionCalls σ) : Prop where
  begin (s : σ) : ∃ s', calls.begin s = (.ok (), s')
  commit (s : σ) : ∃ s', calls.commit s = (.ok (), s')
  rollback (s : σ) : ∃ s', calls.rollback s = (.ok (), s')

theorem Sure.alongside (h : calls.Sure) : (calls.alongside : SessionCalls (τ × σ)).Sure where
  begin x := by
    obtain ⟨s', hs'⟩ := h.begin x.2
    exact ⟨(x.1, s'), onSecond_eq_ok.mpr ⟨hs', rfl⟩⟩
  commit x := by
    obtain ⟨s', hs'⟩ := h.commit x.2
    exact ⟨(x.1, s'), onSecond_eq_ok.mpr ⟨hs', rfl⟩⟩
  rollback x := by
    obtain ⟨s', hs'⟩ := h.rollback x.2
    exact ⟨(x.1, s'), onSecond_eq_ok.mpr ⟨hs', rfl⟩⟩

/-- A transaction that cannot fail by itself is put an end to by its work. -/
theorem Breaks.working_of_sure (h : calls.Breaks work s e) (hcalls : calls.Sure) :
    ∃ s₁ s₂, calls.begin s = (.ok (), s₁) ∧ work s₁ = (.error e, s₂) := by
  cases h with
  | beginning begin =>
    obtain ⟨_, h⟩ := hcalls.begin s
    cases begin.symm.trans h
  | working begin failed => exact ⟨_, _, begin, failed⟩
  | @committing _ _ _ s₂ _ _ _ commit =>
    obtain ⟨_, h⟩ := hcalls.commit s₂
    cases commit.symm.trans h
  | @undoing _ s₁ _ rollback _ =>
    obtain ⟨_, h⟩ := hcalls.rollback s₁
    cases rollback.symm.trans h

end SessionCalls

theorem Connection.session_sure : (session .quiet).Sure where
  begin _ := ⟨_, rfl⟩
  commit _ := ⟨_, rfl⟩
  rollback _ := ⟨_, rfl⟩

namespace Store

theorem transacting_undisturbed {τ : Type} {work : Attempt (τ × Connection) Unit} {x : τ}
    {y : τ × Connection} (hs : c.committed.Sound)
    (hwork : ∀ {c₁ y}, c₁.HoldsSound → work (x, c₁) = (.error e, y) → e.isDisturbed = false)
    (h : transacting .quiet work (x, c) = (.error e, y)) : e.isDisturbed = false := by
  obtain ⟨s₁, s₂, hbegin, failed⟩ :=
    (transacting_breaks h).working_of_sure Connection.session_sure.alongside
  obtain ⟨c₁, hbegun, rfl⟩ := begun_of_session (c := c) rfl hbegin
  exact hwork (hbegun.holdsSound hs) failed

/-- A batch fails in one of its calls, or because it was told to. -/
theorem batch_undisturbed {tasks : List Task} {failing : Option Failure}
    {y : List Task × Answering} (hs : c.committed.Sound)
    (h : batch .quiet failing (tasks, ([], c)) = (.error e, y)) :
    e.isDisturbed = false ∨ failing = some e := by
  have hacquire : (Connection.session .quiet).alongside.alongside.acquire (tasks, ([], c)) =
      (.ok (), (tasks, (([] : List Task.Answer), c.refresh))) := rfl
  have hbreaks := SessionCalls.breaks_of_transaction Connection.session_closes.alongside.alongside
    hacquire h
  obtain ⟨⟨x, s₁⟩, ⟨us, answers', c₃⟩, hbegin, failed⟩ :=
    hbreaks.working_of_sure Connection.session_sure.alongside.alongside
  obtain ⟨hinner, rfl⟩ := onSecond_eq_ok.mp hbegin
  obtain ⟨c₁, hbegun, rfl⟩ := begun_of_session (c := c) rfl hinner
  rw [bind_of_ok (read_run _)] at failed
  dsimp only at failed
  rcases bind_eq_error.mp failed with heach | ⟨_, _, _, hend⟩
  · obtain ⟨front, task, rest, done, ⟨answers, c₂⟩, u, -, hfront, hrun, -⟩ := eachOf_eq_error.mp heach
    have hsound : c₂.HoldsSound := Task.holdsSound_run hfront (hbegun.holdsSound hs)
    dsimp only [Task.run] at hrun
    split at hrun
    · cases hrun
    · rename_i hperform
      cases hrun
      exact .inl (Task.perform_undisturbed hsound hperform)
  · split at hend
    · cases hend
      exact .inr rfl
    · cases hend

end Store

/-- Whatever a write that nothing disturbs fails with, no disturbance is blamed for it. -/
theorem Write.run_undisturbed {w : Write} {clock : Instant} (hs : c.committed.Sound)
    (h : w.run ⟨clock, .quiet⟩ c = (.error e, c')) :
    e.isDisturbed = false ∨ ∃ tasks, w = .batch tasks (some e) := by
  cases w with
  | createQuiz v =>
    obtain ⟨_, h⟩ := (upon_eq_error (a := Store.createQuiz ⟨clock, .quiet⟩)).mp h
    have hwork : Store.transacting .quiet (Store.upsertQuiz ⟨clock, .quiet⟩) (v.forget, c) =
      (.error e, _) := Store.error_of_announced h
    exact .inl (Store.transacting_undisturbed hs Store.upsertQuiz_undisturbed hwork)
  | updateQuiz v =>
    obtain ⟨_, h⟩ := (upon_eq_error (a := Store.updateQuiz ⟨clock, .quiet⟩)).mp h
    unfold Store.updateQuiz at h
    rw [bind_of_ok (read_run _)] at h
    dsimp only at h
    split at h
    · cases h
      exact .inl rfl
    · exact .inl (Store.transacting_undisturbed hs Store.upsertQuiz_undisturbed
        (Store.error_of_announced h))
  | createQuestion q =>
    obtain ⟨_, h⟩ := (upon_eq_error (a := Store.createQuestion ⟨clock, .quiet⟩)).mp h
    have hwork : Store.transacting .quiet ((Question.reconciler .quiet).upsert none) (q.forget, c) =
      (.error e, _) := Store.error_of_announced h
    exact .inl (Store.transacting_undisturbed hs Question.upsert_undisturbed hwork)
  | updateQuestion q =>
    obtain ⟨_, h⟩ := (upon_eq_error (a := Store.updateQuestion ⟨clock, .quiet⟩)).mp h
    unfold Store.updateQuestion at h
    rw [bind_of_ok (read_run _)] at h
    dsimp only at h
    split at h
    · cases h
      exact .inl rfl
    · exact .inl (Store.transacting_undisturbed hs Question.upsert_undisturbed
        (Store.error_of_announced h))
  | batch tasks failing =>
    rcases bind_eq_error.mp h with h | ⟨_, _, _, h⟩
    · obtain ⟨_, h⟩ := upon_eq_error.mp h
      obtain ⟨_, h⟩ := upon_eq_error.mp h
      rcases Store.batch_undisturbed hs h with h | rfl
      · exact .inl h
      · exact .inr ⟨tasks, rfl⟩
    · cases h

/-- What is known of the deletions of a write. -/
structure Write.Clears (w : Write) (c : Connection) : Prop where
  /-- Every deletion among the statements that the write adds is one of a row that was left over. -/
  foreseen : ∀ cond past table, c.issued <+: past →
    past ++ [.delete table] <+: (w.run cond c).2.issued →
      ∃ d c', w.Deletes cond c d c' ∧ d.table = table ∧ c'.issued = past
  /-- At that moment the row is stored under the parent under which it was left over. -/
  stored : ∀ cond d c', w.Deletes cond c d c' → d.StoredIn c'.working
  /-- Undisturbed, the write never fails because a row that was left over is not there, nor because of
  its transaction, unless that is what a batch was told to fail with. -/
  undisturbed : ∀ clock e c', w.run ⟨clock, .quiet⟩ c = (.error (.store e), c') →
    e.kind.isDisturbed = true → ∃ tasks, w = .batch tasks (some (.store e))

/-- From a store that can be reached, deleting leftovers cannot fail by itself. -/
theorem Write.clears (hc : Reachable c.committed) (w : Write) : w.Clears c where
  foreseen cond past table hpast hdelete := (w.accounts_run cond c).deletion past table hpast hdelete
  stored _ _ _ h := h.stored hc.sound
  undisturbed _ _ _ h hdisturbed :=
    (Write.run_undisturbed hc.sound h).resolve_left fun hfalse =>
      Bool.false_ne_true (hfalse.symm.trans hdisturbed)

/-- When the first question is left without choices, its second choice is deleted after its first, and it
is still there. -/
theorem Write.clears_emptied : ∃ c',
    (Write.batch [.reconcileChoices 1 []] none).Deletes .calm (.onto .demo) (.choice 1 2) c' ∧
      (Leftover.choice 1 2).StoredIn c'.working := by
  let c₁ : Connection := { Connection.onto .demo with issued := [.begin] }
  have hlisted := Choice.existing_quiet (c := c₁) (p := 1) rfl
  have hstale : staleIds ((Tables.demo.choices.filter (·.questionId == 1)).map (·.id)) [] =
      [1] ++ 2 :: [3, 4] := by decide +kernel
  have hfirst : (Attempt.forAll ((Choice.reconciler .quiet).discard 1) [1]
      { c₁ with issued := c₁.issued ++ [.select .choices] }).1 = .ok () := by decide +kernel
  have hdeletes : (Choice.reconciler .quiet).Deletes 1 [] c₁ 2 _ :=
    ⟨_, _, _, _, _, _, hlisted, rfl, hstale, Prod.ext hfirst rfl⟩
  have hnone : eachOf (Task.run .quiet) [] ([], c₁) = (.ok (), ([], ([], c₁))) := rfl
  have hwrite : (Write.batch ([] ++ .reconcileChoices 1 [] :: []) none).Deletes .calm (.onto .demo)
      (.choice 1 2) _ := .batch rfl hnone (.reconcileChoices hdeletes)
  exact ⟨_, hwrite, (Write.clears (c := .onto .demo) reachable_demo _).stored .calm _ _ hwrite⟩

end TriviaStore
