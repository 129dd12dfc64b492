import TriviaStore.Proofs.Connection.Failing
import TriviaStore.Proofs.Transaction.Scope

/-! # Deletions on the way

Statements are only ever added to those that have been issued. What is added is accounted for if something
is known of every deletion in it, in view of the statements before the deletion. A composite attempt is
accounted for by its parts.
-/

namespace TriviaStore

variable {σ τ α β : Type} {D : List Statement → Table → Prop}

/-- The statements have been added to, and what is said of a deletion, given the statements before it and
its table, is true of every deletion that was added. -/
structure Accounted (before after : List Statement) (D : List Statement → Table → Prop) : Prop where
  added : before <+: after
  deletion : ∀ past table, before <+: past → past ++ [.delete table] <+: after → D past table

namespace Accounted

variable {l m n : List Statement}

theorem refl (l : List Statement) : Accounted l l D where
  added := List.prefix_refl l
  deletion past table hpast hdelete := by
    have hshort := hpast.length_le
    have hlong := hdelete.length_le
    rw [List.length_append, List.length_singleton] at hlong
    omega

theorem concat {s : Statement} (h : ∀ table, s = .delete table → D l table) :
    Accounted l (l ++ [s]) D where
  added := List.prefix_append l [s]
  deletion past table hpast hdelete := by
    have hlong := hdelete.length_le
    simp only [List.length_append, List.length_singleton, Nat.add_le_add_iff_right] at hlong
    obtain rfl := hpast.eq_of_length_le hlong
    have hs := (List.prefix_append_right_inj l).mp hdelete
    exact h table (List.cons_prefix_cons.mp hs).1.symm

theorem mono (h : Accounted l m D) {E : List Statement → Table → Prop}
    (hDE : ∀ past table, D past table → E past table) : Accounted l m E where
  added := h.added
  deletion past table hpast hdelete := hDE past table (h.deletion past table hpast hdelete)

/-- A deletion is added first or later. -/
theorem trans (h : Accounted l m D) (h' : Accounted m n D) : Accounted l n D where
  added := h.added.trans h'.added
  deletion past table hpast hdelete := by
    rcases List.prefix_or_prefix_of_prefix hdelete h'.added with hfirst | hlater
    · exact h.deletion past table hpast hfirst
    · rcases List.prefix_concat_iff.mp hlater with rfl | hlater
      · exact h.deletion past table hpast (List.prefix_refl _)
      · exact h'.deletion past table hlater hdelete

end Accounted

namespace Attempt

/-- What a pair has in common with its second half. -/
abbrev Behind (log : σ → β) (p : τ × σ) : β := log p.2

/-- The deletions that an attempt adds when it is made in a state are accounted for. -/
def Accounts (log : σ → List Statement) (a : Attempt σ α) (s : σ)
    (D : List Statement → Table → Prop) : Prop := Accounted (log s) (log (a s).2) D

variable {log : σ → List Statement} {a : Attempt σ α} {s : σ}

theorem accounts_of_same (h : log (a s).2 = log s) : a.Accounts log s D := by
  unfold Accounts
  rw [h]
  exact .refl _

theorem accounts_of_issued {st : Statement} (h : log (a s).2 = log s ++ [st])
    (hD : ∀ table, st = .delete table → D (log s) table) : a.Accounts log s D := by
  unfold Accounts
  rw [h]
  exact .concat hD

theorem Accounts.bind {f : α → Attempt σ β} (ha : a.Accounts log s D)
    (hf : ∀ x s₁, a s = (.ok x, s₁) → (f x).Accounts log s₁ D) : (a >>= f).Accounts log s D := by
  unfold Accounts at ha ⊢
  rcases h : a s with ⟨e | x, s₁⟩ <;> rw [h] at ha
  · rw [bind_of_error h]
    exact ha
  · rw [bind_of_ok h]
    exact ha.trans (hf x s₁ h)

theorem Accounts.mapFailure {g : σ → Failure → Failure} (h : a.Accounts log s D) :
    (a.mapFailure g).Accounts log s D := by
  unfold Accounts
  rw [mapFailure_snd]
  exact h

theorem Accounts.wrapping {m : σ → String} (h : a.Accounts log s D) :
    (a.wrapping m).Accounts log s D := h.mapFailure

theorem Accounts.inContext {m : σ → String} (h : a.Accounts log s D) :
    (a.inContext m).Accounts log s D := h.mapFailure

theorem Accounts.onSecond (h : a.Accounts log s D) (t : τ) :
    (a.onSecond : Attempt (τ × σ) α).Accounts (Behind log) (t, s) D := h

theorem Accounts.upon {a : Attempt (τ × σ) α} {t : τ} (h : a.Accounts (Behind log) (t, s) D) :
    (a.upon t).Accounts log s D := h

/-- The work on a list is accounted for by the work on each member that it gets to. -/
theorem accounts_each {a : Attempt (τ × σ) Unit} {ts : List τ}
    (h : ∀ front t rest done s₁, ts = front ++ t :: rest → eachOf a front s = (.ok (), (done, s₁)) →
      a.Accounts (Behind log) (t, s₁) D) : (each a).Accounts (Behind log) (ts, s) D := by
  show Accounted (log s) (log (eachOf a ts s).2.2) D
  induction ts generalizing s with
  | nil => exact .refl _
  | cons t ts ih =>
    have hhead : Accounted (log s) (log (a (t, s)).2.2) D := h [] t ts [] s rfl rfl
    rcases ht : a (t, s) with ⟨e | _, u, s₁⟩ <;> rw [ht] at hhead
    · rw [eachOf_cons_of_error ht]
      exact hhead
    · rw [eachOf_cons_of_ok ht]
      refine hhead.trans (ih fun front v rest done s₂ hts hfront => ?_)
      exact h (t :: front) v rest (u :: done) s₂ (by rw [hts, List.cons_append])
        (eachOf_cons_eq_ok.mpr ⟨u, s₁, done, ht, hfront, rfl⟩)

theorem accounts_forAll {f : τ → Attempt σ Unit} {ts : List τ}
    (h : ∀ front t rest s₁, ts = front ++ t :: rest → forAll f front s = (.ok (), s₁) →
      (f t).Accounts log s₁ D) : (forAll f ts).Accounts log s D := by
  induction ts generalizing s with
  | nil => exact accounts_of_same rfl
  | cons t ts ih =>
    refine Accounts.bind (h [] t ts s rfl rfl) fun _ s₁ ht => ih fun front v rest s₂ hts hfront => ?_
    exact h (t :: front) v rest s₂ (by rw [hts, List.cons_append])
      (forAll_cons_eq_ok.mpr ⟨s₁, ht, hfront⟩)

theorem Accounts.ensuring {last : Attempt σ Unit} (ha : a.Accounts log s D)
    (hlast : ∀ s₁, last.Accounts log s₁ D) : (a.ensuring last).Accounts log s D := by
  rcases h : a s with ⟨r, s₁⟩
  have hl := hlast s₁
  unfold Accounts at ha hl ⊢
  rw [h] at ha
  rcases hs : last s₁ with ⟨e | _, s₂⟩ <;> rw [hs] at hl
  · rw [ensuring_of_error h hs]
    exact ha.trans hl
  · rw [ensuring_of_ok h hs]
    exact ha.trans hl

/-- Work while a routine pauses is accounted for by the work and by what the routine does. -/
theorem Accounts.around {routine : Routine σ} (henter : routine.enter.Accounts log s D)
    (hleave : ∀ s₁, routine.leave.Accounts log s₁ D) (habort : ∀ s₁, routine.abort.Accounts log s₁ D)
    (ha : ∀ s₁, routine.enter s = (.ok (), s₁) → a.Accounts log s₁ D) :
    (routine.around a).Accounts log s D := by
  refine Accounts.bind henter.mapFailure fun _ s₁ hentered => ?_
  have hwork : a.caught.Accounts log s₁ D := ha s₁ (escaping_eq_ok.mp hentered)
  refine hwork.bind fun r s₂ _ => ?_
  cases r with
  | ok x => exact Accounts.bind (hleave s₂).mapFailure fun _ _ _ => accounts_of_same rfl
  | error e => exact Accounts.bind (habort s₂).mapFailure fun _ _ _ => accounts_of_same rfl

end Attempt

/-! ## Statements -/

namespace Connection

open Attempt

variable {plan : Plan Statement} {c : Connection}

theorem accounts_issue {s : Statement} {act : Connection → Except Failure α × Connection}
    (hact : ∀ c, (act c).2.issued = c.issued) (hD : ∀ table, s = .delete table → D c.issued table) :
    (issue plan s act).Accounts Connection.issued c D :=
  accounts_of_issued (issue_issued hact rfl) hD

theorem accounts_query {table : Table} {read : Tables → Except Failure α} :
    (query plan table read).Accounts Connection.issued c D :=
  accounts_issue (fun _ => rfl) nofun

theorem accounts_insert {table : Table} {change : Tables → Except Failure (Int × Tables)} :
    (insert plan table change).Accounts Connection.issued c D :=
  accounts_issue apply_issued nofun

theorem write_issued {s : Statement} {change : Tables → Except Failure (Nat × Tables)} :
    (write plan s change c).2.issued = c.issued ++ [s] := by
  unfold Connection.write
  split
  · rfl
  · exact issue_issued apply_issued rfl

theorem accounts_write {s : Statement} {change : Tables → Except Failure (Nat × Tables)}
    (hD : ∀ table, s = .delete table → D c.issued table) :
    (write plan s change).Accounts Connection.issued c D :=
  accounts_of_issued write_issued hD

end Connection

/-! ## Transactions -/

namespace SessionCalls

open Attempt

/-- The calls of a session delete nothing. -/
structure Logs (calls : SessionCalls σ) (log : σ → List Statement) : Prop where
  acquire {s : σ} {D} : calls.acquire.Accounts log s D
  begin {s : σ} {D} : calls.begin.Accounts log s D
  commit {s : σ} {D} : calls.commit.Accounts log s D
  rollback {s : σ} {D} : calls.rollback.Accounts log s D
  close {s : σ} {D} : calls.close.Accounts log s D
  note (e : Event) (s : σ) : log (calls.note e s) = log s

namespace Logs

variable {calls : SessionCalls σ} {log : σ → List Statement} {work : Attempt σ α} {s : σ}

theorem alongside (h : calls.Logs log) : (calls.alongside : SessionCalls (τ × σ)).Logs (Behind log) where
  acquire := h.acquire.onSecond _
  begin := h.begin.onSecond _
  commit := h.commit.onSecond _
  rollback := h.rollback.onSecond _
  close := h.close.onSecond _
  note e x := h.note e x.2

theorem undo (h : calls.Logs log) : calls.undo.Accounts log s D := by
  have hrollback : Accounted (log s) (log (calls.rollback s).2) D := h.rollback
  show Accounted _ _ D
  unfold SessionCalls.undo
  split <;> rename_i hr <;> rw [hr] at hrollback
  · rwa [h.note]
  · rwa [h.note]
  · exact hrollback

theorem finish (h : calls.Logs log) : calls.finish.Accounts log s D := by
  have hdone : Accounted (log s) (log (calls.commit s).2) D := h.commit
  show Accounted _ _ D
  unfold SessionCalls.finish
  split
  · rename_i hc
    rw [hc] at hdone
    rwa [h.note]
  · rename_i s₁ hc
    rw [hc] at hdone
    have hundone : Accounted (log s₁) (log (calls.undo s₁).2) D := h.undo
    split <;> rename_i hu <;> rw [hu] at hundone <;> exact hdone.trans hundone
  · rename_i hc
    rwa [hc] at hdone

/-- A transaction deletes only what its work deletes. -/
theorem transaction (h : calls.Logs log) (hwork : ∀ s₁ s₂, calls.acquire s = (.ok (), s₁) →
      calls.begin s₁ = (.ok (), s₂) → work.Accounts log s₂ D) :
    (calls.transaction work).Accounts log s D := by
  rw [transaction_eq_ensuring]
  refine Accounts.bind h.acquire.mapFailure fun _ s₁ hacquire => ?_
  refine Accounts.ensuring ?_ fun _ => h.close.mapFailure
  refine Accounts.around h.begin.mapFailure (fun _ => h.finish) (fun _ => h.undo) fun s₂ hbegin => ?_
  exact hwork s₁ s₂ (escaping_eq_ok.mp hacquire) (mapFailure_eq_ok.mp hbegin)

end Logs

end SessionCalls

theorem Connection.session_logs (plan : Plan Statement) :
    (session plan).Logs Connection.issued where
  acquire := Attempt.accounts_of_same rfl
  begin := accounts_issue (fun _ => rfl) nofun
  commit := accounts_issue (fun _ => rfl) nofun
  rollback := accounts_issue (fun _ => rfl) nofun
  close := Attempt.accounts_of_same rfl
  note _ _ := rfl

end TriviaStore
