import TriviaStore.Proofs.Reconcile.Retraced
import TriviaStore.Proofs.Store.Success
import TriviaStore.Proofs.Store.Views

/-! # Retracing on another session

Statements look at the session's tables alone, and those on choices do not look at the quizzes. What a
session has done under any plan is therefore done again, undisturbed, by a session that sees the same
tables; as far as choices are concerned, by one that sees other quizzes, too.
-/

namespace TriviaStore

open Attempt

variable {plan : Plan Statement} {f : Tables → Tables}

/-! ## Statements -/

/-- A change of the tables that statements on choices take no notice of. -/
structure Tables.Unnoticed (f : Tables → Tables) : Prop where
  choicesOf {t : Tables} {p rows} : t.choicesOf p = .ok rows → (f t).choicesOf p = .ok rows
  insertChoice {t t' : Tables} {p text correct id} :
    t.insertChoice p text correct = .ok (id, t') → (f t).insertChoice p text correct = .ok (id, f t')
  updateChoice {t t' : Tables} {id parent text correct n} :
    t.updateChoice id parent text correct = .ok (n, t') →
      (f t).updateChoice id parent text correct = .ok (n, f t')
  deleteChoice {t t' : Tables} {id n} :
    t.deleteChoice id = .ok (n, t') → (f t).deleteChoice id = .ok (n, f t')

theorem Tables.unnoticed_none : Unnoticed fun t => t := ⟨id, id, id, id⟩

theorem Tables.unnoticed_quizzes (quizzes : List QuizRow) :
    Unnoticed fun t => { t with quizzes } where
  choicesOf h := h
  insertChoice h := by
    obtain ⟨hfits, text, correct, ht, hc, hparent, hid, hfit, rfl⟩ := insertChoice_eq_ok.mp h
    exact insertChoice_eq_ok.mpr ⟨hfits, text, correct, ht, hc, hparent, hid, hfit, rfl⟩
  updateChoice h := by
    obtain ⟨hfits, ⟨hnone, hn, rfl⟩ | ⟨hsome, text, correct, ht, hc, hn, rfl⟩⟩ :=
      updateChoice_eq_ok.mp h
    · exact updateChoice_eq_ok.mpr ⟨hfits, .inl ⟨hnone, hn, rfl⟩⟩
    · exact updateChoice_eq_ok.mpr ⟨hfits, .inr ⟨hsome, text, correct, ht, hc, hn, rfl⟩⟩
  deleteChoice h := by
    obtain ⟨hfits, ⟨hnone, hn, rfl⟩ | ⟨hsome, hn, rfl⟩⟩ := deleteChoice_eq_ok.mp h
    · exact deleteChoice_eq_ok.mpr ⟨hfits, .inl ⟨hnone, hn, rfl⟩⟩
    · exact deleteChoice_eq_ok.mpr ⟨hfits, .inr ⟨hsome, hn, rfl⟩⟩

namespace Connection

/-- The second session sees the tables of the first with a change. -/
def Sees (f : Tables → Tables) (c d : Connection) : Prop := d.working = f c.working

theorem retraced_query {α : Type} {table : Table} {read : Tables → Except Failure α}
    (hread : ∀ t x, read t = .ok x → read (f t) = .ok x) :
    Attempt.Retraced (Sees f) Anything (query plan table read) (query .quiet table read) := by
  intro c d hd x c' _ h
  obtain ⟨hx, hc'⟩ := query_ok h
  have hx : read d.working = .ok x := hd ▸ hread _ _ hx
  exact ⟨_, query_quiet hx, hd.trans (congrArg f hc'.symm)⟩

theorem retraced_insert {table : Table} {change : Tables → Except Failure (Int × Tables)}
    (hchange : ∀ t t' id, change t = .ok (id, t') → change (f t) = .ok (id, f t')) :
    Attempt.Retraced (Sees f) Anything (insert plan table change) (insert .quiet table change) := by
  intro c d hd id c' _ h
  have hi : change d.working = .ok (id, f c'.working) := hd ▸ hchange _ _ _ (insert_ok h)
  exact ⟨_, insert_quiet hi, rfl⟩

theorem retraced_write {s : Statement} {change : Tables → Except Failure (Nat × Tables)}
    (hchange : ∀ t t' n, change t = .ok (n, t') → change (f t) = .ok (n, f t')) :
    Attempt.Retraced (Sees f) (· ≠ 0) (write plan s change) (write .quiet s change) := by
  intro c d hd n c' hn h
  have hw : change d.working = .ok (n, f c'.working) := hd ▸ hchange _ _ _ (write_ok h hn)
  exact ⟨_, write_quiet hw, rfl⟩

end Connection

theorem retraced_assigning {τ : Type} {insert insert' : τ → Attempt Connection Int} {set : Int → τ → τ}
    (h : ∀ x, Attempt.Retraced (Connection.Sees f) Anything (insert x) (insert' x)) :
    Attempt.Retraced (Beside (Connection.Sees f)) Anything (assigning insert set)
      (assigning insert' set) := by
  rintro ⟨x, c⟩ ⟨_, d⟩ ⟨rfl, hd⟩ _ y - hok
  obtain ⟨id, c', hi, rfl⟩ := assigning_eq_ok.mp hok
  obtain ⟨d', hi, hd'⟩ := h x c d hd id c' trivial hi
  exact ⟨_, assigning_eq_ok.mpr ⟨id, d', hi, rfl⟩, rfl, hd'⟩

/-! ## Children -/

namespace Choice

theorem retraced_existing (hf : Tables.Unnoticed f) (p : Int) :
    Attempt.Retraced (Connection.Sees f) Anything ((reconciler plan).existing p)
      ((reconciler .quiet).existing p) := by
  rw [reconciler_existing, reconciler_existing]
  refine Connection.retraced_query fun t ids h => ?_
  obtain ⟨rows, hrows, rfl⟩ := Except.map_eq_ok.mp h
  exact Except.map_eq_ok.mpr ⟨rows, hf.choicesOf hrows, rfl⟩

theorem retraced_create (hf : Tables.Unnoticed f) :
    Attempt.Retraced (Beside (Connection.Sees f)) Anything (reconciler plan).create
      (reconciler .quiet).create := by
  rw [reconciler_create, reconciler_create]
  exact retraced_assigning fun _ => Connection.retraced_insert fun _ _ _ => hf.insertChoice

theorem retraced_update (hf : Tables.Unnoticed f) (parent : Option Int) :
    Attempt.Retraced (Beside (Connection.Sees f)) (· ≠ 0) ((reconciler plan).update parent)
      ((reconciler .quiet).update parent) := by
  rintro ⟨x, c⟩ ⟨_, d⟩ ⟨rfl, hd⟩ n y hn hok
  obtain ⟨c', hw, rfl⟩ := update_eq_ok.mp hok
  obtain ⟨d', hw, hd'⟩ := Connection.retraced_write (fun _ _ _ => hf.updateChoice) c d hd n c' hn hw
  exact ⟨_, update_eq_ok.mpr ⟨d', hw, rfl⟩, rfl, hd'⟩

theorem reconciler_retraced (hf : Tables.Unnoticed f) :
    (reconciler plan).Retraced (reconciler .quiet) (Connection.Sees f) where
  id := rfl
  attach := rfl
  existing := retraced_existing hf
  reset := retraced_done
  create := retraced_create hf
  update := retraced_update hf
  delete _ := Connection.retraced_write fun _ _ _ => hf.deleteChoice
  descend := retraced_done
  note h := h

end Choice

namespace Question

theorem retraced_reconcileChoices (hf : Tables.Unnoticed f) :
    Attempt.Retraced (Beside (Connection.Sees f)) Anything (reconcileChoices plan)
      (reconcileChoices .quiet) := by
  rintro ⟨q, c⟩ ⟨_, d⟩ ⟨rfl, hd⟩ _ y - hok
  obtain ⟨ids, choices, c', hr, rfl⟩ := reconcileChoices_eq_ok.mp hok
  obtain ⟨d', hr, hd'⟩ :=
    ((Choice.reconciler_retraced hf).reconcile q.id).beside hd trivial hr
  exact ⟨_, reconcileChoices_eq_ok.mpr ⟨ids, choices, d', hr, rfl⟩, rfl, hd'⟩

/-- Undisturbed, a question is updated by its id alone if the tables allow it and its owner can be looked
up after that. -/
theorem update_alone_quiet {q : Question} {c : Connection} {t : Tables} {n : Nat}
    {r? : Option QuestionRow} (hn : n ≠ 0)
    (hu : c.working.updateQuestion q.id none q.text q.imageUrl q.position = .ok (n, t))
    (ho : t.question? q.id = .ok r?) : ∃ c', update .quiet none (q, c) =
      (.ok n, ({ q with quizId := (r?.map QuestionRow.quizId).getD q.quizId }, c')) ∧ c'.working = t := by
  let c₁ : Connection := { c with working := t, issued := c.issued ++ [.update .questions] }
  let c₂ : Connection := { c₁ with issued := c₁.issued ++ [.select .questions] }
  have hw : Connection.write .quiet (.update .questions)
      (Tables.updateQuestion q.id none q.text q.imageUrl q.position) c = (.ok n, c₁) :=
    Connection.write_quiet hu
  have hq : Connection.query .quiet .questions (Tables.question? q.id) c₁ = (.ok r?, c₂) :=
    Connection.query_quiet ho
  have hs : n ≠ 0 ∧ (none : Option Int) = none := ⟨hn, rfl⟩
  refine ⟨c₂, ?_, rfl⟩
  unfold update
  rw [bind_of_ok (read_run _), bind_eq_ok]
  refine ⟨n, (q, c₁), onSecond_eq_ok.mpr ⟨hw, rfl⟩, ?_⟩
  rw [if_pos hs]
  exact bind_eq_ok.mpr ⟨(), _, findOwner_eq_ok.mpr ⟨r?, c₂, hq, rfl⟩, rfl⟩

theorem retraced_update (parent : Option Int) :
    Attempt.Retraced (Beside (Connection.Sees fun t => t)) (· ≠ 0) (update plan parent)
      (update .quiet parent) := by
  rintro ⟨q, c⟩ ⟨_, d⟩ ⟨rfl, hd : d.working = c.working⟩ n y hn hok
  cases parent with
  | some p =>
    obtain ⟨c', hw, rfl⟩ := update_eq_ok.mp hok
    obtain ⟨d', hw, hd'⟩ := Connection.retraced_write (f := fun t => t) (fun _ _ _ h => h) c d hd n c' hn hw
    exact ⟨_, update_eq_ok.mpr ⟨d', hw, rfl⟩, rfl, hd'⟩
  | none =>
    obtain ⟨r?, hu, ho, hy⟩ := update_alone_ok hn hok
    obtain ⟨d', hu, hd'⟩ := update_alone_quiet hn (hd ▸ hu) ho
    exact ⟨_, hu, hy, hd'⟩

/-- What has been done with questions is done again on the same tables. -/
theorem reconciler_retraced :
    (reconciler plan).Retraced (reconciler .quiet) (Connection.Sees fun t => t) where
  id := rfl
  attach := rfl
  existing p := by
    rw [reconciler_existing, reconciler_existing]
    exact Connection.retraced_query fun _ _ h => h
  reset := by
    rintro ⟨q, c⟩ ⟨_, d⟩ ⟨rfl, hd⟩ _ _ - ⟨⟩
    exact ⟨_, rfl, rfl, hd⟩
  create := by
    rw [reconciler_create, reconciler_create]
    exact retraced_assigning fun _ => Connection.retraced_insert fun _ _ _ h => h
  update := retraced_update
  delete _ := Connection.retraced_write fun _ _ _ h => h
  descend := retraced_reconcileChoices Tables.unnoticed_none
  note h := h

end Question

/-! ## Transactions -/

namespace Store

variable {τ : Type} {x x' : τ} {d : Connection} {t : Tables}

/-- Undisturbed, a transaction commits what its work makes of the committed tables, and is announced. -/
theorem transacting_commits (work : Attempt (τ × Connection) Unit) (event : τ → Event)
    (hw : ∀ d₁ : Connection, d₁.working = d.committed →
      ∃ d₂, work (x, d₁) = (.ok (), (x', d₂)) ∧ d₂.working = t) :
    ∃ d', (transacting .quiet work >>= fun _ => announce event) (x, d) = (.ok (), (x', d')) ∧
      d'.committed = t := by
  obtain ⟨⟨y, d'⟩, hd'⟩ := transacting_of_ok (c := d) work fun d₁ h => by
    obtain ⟨d₂, hwork, -⟩ := hw d₁ h
    exact ⟨_, hwork⟩
  obtain ⟨d₁, d₂, hbegin, hwork, hcommit⟩ := transacting_ok hd'
  obtain ⟨d₃, hwork', rfl⟩ := hw d₁ (Connection.begin_ok hbegin)
  rw [hwork] at hwork'
  cases hwork'
  exact ⟨_, bind_eq_ok.mpr ⟨(), _, hd', update_run _ _⟩, hcommit⟩

end Store

end TriviaStore
