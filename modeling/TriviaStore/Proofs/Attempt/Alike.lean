import TriviaStore.Proofs.Transaction.Scope
import Mathlib.Data.List.Forall2

/-! # Attempts that end alike

An attempt on two entities, from one state, ends alike if it either succeeds on both, with one result
and in one state, or fails on both, in one state. How the entities are related before, after a success
and after a failure are parameters, so that what an attempt makes of the parts in which two entities
differ is told step by step.
-/

namespace TriviaStore

open Attempt

variable {σ τ α β : Type}

/-- Two ends in one state: with one result, or with two failures. -/
inductive EndsAlike (S : α → τ → τ → Prop) (E : Failure × τ → Failure × τ → Prop) :
    Except Failure α × (τ × σ) → Except Failure α × (τ × σ) → Prop
  | ok {x : α} {t u : τ} {s : σ} : S x t u → EndsAlike S E (.ok x, (t, s)) (.ok x, (u, s))
  | error {e d : Failure} {t u : τ} {s : σ} :
      E (e, t) (d, u) → EndsAlike S E (.error e, (t, s)) (.error d, (u, s))

/-- The failures are related, whatever has become of the entities. -/
def Fails (F : Failure → Failure → Prop) : Failure × τ → Failure × τ → Prop :=
  fun x y => F x.1 y.1

/-- The failures are the same, and so is a part of the entities. -/
def FailsTelling {A : Type} (f : τ → A) : Failure × τ → Failure × τ → Prop :=
  fun x y => x.1 = y.1 ∧ f x.2 = f y.2

/-- On entities that are related, the attempt ends alike. -/
def Attempt.Alike (R : τ → τ → Prop) (S : α → τ → τ → Prop) (E : Failure × τ → Failure × τ → Prop)
    (a : Attempt (τ × σ) α) : Prop :=
  ∀ t u s, R t u → EndsAlike S E (a (t, s)) (a (u, s))

namespace EndsAlike

variable {S S' : α → τ → τ → Prop} {E E' : Failure × τ → Failure × τ → Prop}
  {o o' : Except Failure α × (τ × σ)}

theorem of_eq (hS : ∀ x t, S x t t) (hE : ∀ x, E x x) (h : o = o') : EndsAlike S E o o' := by
  subst h
  obtain ⟨_ | _, _, _⟩ := o
  · exact .error (hE _)
  · exact .ok (hS _ _)

theorem mono (h : EndsAlike S E o o') (hS : ∀ x t u, S x t u → S' x t u)
    (hE : ∀ x y, E x y → E' x y) : EndsAlike S' E' o o' := by
  cases h with
  | ok h => exact .ok (hS _ _ _ h)
  | error h => exact .error (hE _ _ h)

/-- Successes with equal entities are the same end. -/
theorem eq_of_ok (h : EndsAlike (fun _ => Eq) E o o') {x : α} (hx : o.1 = .ok x) : o = o' := by
  cases h with
  | ok h => rw [h]
  | error => cases hx

/-- Ends of work on parts of two entities, as ends of work on the entities. -/
theorem part {ρ : Type} {T : α → ρ → ρ → Prop} {D : Failure × ρ → Failure × ρ → Prop}
    {S : Unit → τ → τ → Prop} {o o' : Except Failure α × (ρ × σ)} (h : EndsAlike T D o o')
    {f g : ρ → τ} (hS : ∀ x y z, T x y z → S () (f y) (g z))
    (hE : ∀ e d y z, D (e, y) (d, z) → E (e, f y) (d, g z)) :
    EndsAlike S E (o.1.map fun _ => (), (f o.2.1, o.2.2))
      (o'.1.map fun _ => (), (g o'.2.1, o'.2.2)) := by
  cases h with
  | ok h => exact .ok (hS _ _ _ h)
  | error h => exact .error (hE _ _ _ _ h)

end EndsAlike

namespace Attempt

variable {R R' : τ → τ → Prop} {S S' : α → τ → τ → Prop} {E E' : Failure × τ → Failure × τ → Prop}
  {a : Attempt (τ × σ) α}

theorem Alike.mono (h : a.Alike R S E) (hR : ∀ t u, R' t u → R t u)
    (hS : ∀ x t u, S x t u → S' x t u) (hE : ∀ x y, E x y → E' x y) : a.Alike R' S' E' :=
  fun t u s htu => (h t u s (hR t u htu)).mono hS hE

theorem alike_pure {x : α} (h : ∀ t u, R t u → S x t u) :
    (pure x : Attempt (τ × σ) α).Alike R S E :=
  fun t u _ htu => .ok (h t u htu)

theorem alike_fail {e : Failure} (h : ∀ t u, R t u → E (e, t) (e, u)) :
    (fail e : Attempt (τ × σ) α).Alike R S E :=
  fun t u _ htu => .error (h t u htu)

theorem alike_update {g : τ × σ → τ × σ} {S : Unit → τ → τ → Prop}
    (h : ∀ t u s, R t u → (g (t, s)).2 = (g (u, s)).2 ∧ S () (g (t, s)).1 (g (u, s)).1) :
    (update g).Alike R S E := by
  intro t u s htu
  obtain ⟨hs, hS⟩ := h t u s htu
  rw [update_run, update_run, ← Prod.eta (g (t, s)), ← Prod.eta (g (u, s)), hs]
  exact .ok hS

theorem Alike.bind_run {f : α → Attempt (τ × σ) β} {T : β → τ → τ → Prop} {t u : τ} {s : σ}
    (h : EndsAlike S E (a (t, s)) (a (u, s))) (hf : ∀ x, (f x).Alike (S x) T E) :
    EndsAlike T E ((a >>= f) (t, s)) ((a >>= f) (u, s)) := by
  rw [Attempt.bind_run, Attempt.bind_run]
  generalize a (t, s) = o at h ⊢
  generalize a (u, s) = o' at h ⊢
  cases h with
  | ok h => exact hf _ _ _ _ h
  | error h => exact .error h

theorem Alike.bind {f : α → Attempt (τ × σ) β} {T : β → τ → τ → Prop} (ha : a.Alike R S E)
    (hf : ∀ x, (f x).Alike (S x) T E) : (a >>= f).Alike R T E :=
  fun t u s htu => bind_run (ha t u s htu) hf

/-- What goes on in view of the state must not tell the entities apart. -/
theorem Alike.read_bind {f : τ × σ → Attempt (τ × σ) α} (hf : ∀ t u s, R t u → f (u, s) = f (t, s))
    (ha : ∀ t u s, R t u → EndsAlike S E (f (t, s) (t, s)) (f (t, s) (u, s))) :
    (read >>= f).Alike R S E := by
  intro t u s htu
  have hrun : ∀ t, (read >>= f) (t, s) = f (t, s) (t, s) := fun _ => rfl
  rw [hrun, hrun, hf t u s htu]
  exact ha t u s htu

theorem Alike.mapFailure {m : τ × σ → Failure → Failure} (ha : a.Alike R S E)
    (hm : ∀ e d t u s, E (e, t) (d, u) → E' (m (t, s) e, t) (m (u, s) d, u)) :
    (a.mapFailure m).Alike R S E' := by
  intro t u s htu
  have h := ha t u s htu
  unfold Attempt.mapFailure
  generalize a (t, s) = o at h ⊢
  generalize a (u, s) = o' at h ⊢
  cases h with
  | ok h => exact .ok h
  | error h => exact .error (hm _ _ _ _ _ h)

theorem onSecond_run (a : Attempt σ α) (t : τ) (s : σ) :
    a.onSecond (t, s) = ((a s).1, (t, (a s).2)) := rfl

/-- Work on the second half of the state does not see the entity. -/
theorem alike_onSecond (a : Attempt σ α) (hE : ∀ e t u, R t u → E (e, t) (e, u)) :
    (a.onSecond : Attempt (τ × σ) α).Alike R (fun _ => R) E := by
  intro t u s htu
  rw [onSecond_run, onSecond_run]
  rcases a s with ⟨e | x, s'⟩
  · exact .error (hE e t u htu)
  · exact .ok htu

/-- Work on the members of two lists ends alike if the members are related one by one. -/
theorem Alike.each {a : Attempt (τ × σ) Unit} {S : τ → τ → Prop} {F : Failure → Failure → Prop}
    (ha : a.Alike R (fun _ => S) (Fails F)) :
    (each a).Alike (List.Forall₂ R) (fun _ => List.Forall₂ S) (Fails F) := by
  intro ts us s htu
  show EndsAlike _ _ (eachOf a ts s) (eachOf a us s)
  induction htu generalizing s with
  | nil => exact .ok .nil
  | @cons t u ts us h _ ih =>
    have hm := ha t u s h
    unfold eachOf
    generalize a (t, s) = o at hm ⊢
    generalize a (u, s) = o' at hm ⊢
    cases hm with
    | error hm => exact .error hm
    | @ok _ t' u' s' hm =>
      have hr := ih s'
      dsimp only
      generalize eachOf a ts s' = o at hr ⊢
      generalize eachOf a us s' = o' at hr ⊢
      cases hr with
      | ok hr => exact .ok (.cons hm hr)
      | error hr => exact .error hr

end Attempt

/-! ## Routines -/

/-- A routine on the second half of the state. -/
def Routine.onSecond (routine : Routine σ) : Routine (τ × σ) where
  enter := routine.enter.onSecond
  leave := routine.leave.onSecond
  abort := routine.abort.onSecond

namespace Attempt

variable {R : τ → τ → Prop} {S : α → τ → τ → Prop} {F : Failure → Failure → Prop}
  {work : Attempt (τ × σ) α}

theorem onSecond_escaping (a : Attempt σ α) :
    (a.onSecond : Attempt (τ × σ) α).escaping = a.escaping.onSecond := by
  funext ⟨t, s⟩
  rw [onSecond_run]
  unfold escaping mapFailure
  rw [onSecond_run]
  rcases a s with ⟨_ | _, _⟩ <;> rfl

/-- Work ends alike while a routine pauses that does not see the entity. -/
theorem alike_around (hF : ∀ e, F e e) (routine : Routine σ) (hw : work.Alike R S (Fails F)) :
    (routine.onSecond.around work).Alike R S (Fails F) := by
  have hsecond {T : τ → τ → Prop} (a : Attempt σ Unit) :
      ((a.onSecond : Attempt (τ × σ) Unit).escaping).Alike T (fun _ => T) (Fails F) := by
    rw [onSecond_escaping]
    exact alike_onSecond a.escaping fun e _ _ _ => hF e
  refine (hsecond routine.enter).bind fun _ => ?_
  intro t u s htu
  have h := hw t u s htu
  rw [bind_of_ok (caught_run work (t, s)), bind_of_ok (caught_run work (u, s))]
  generalize work (t, s) = o at h ⊢
  generalize work (u, s) = o' at h ⊢
  cases h with
  | @ok x t' u' s' h =>
    exact (hsecond routine.leave).bind (fun _ => alike_pure fun _ _ h => h) t' u' s' h
  | @error e d t' u' s' h =>
    have habort : (routine.onSecond (τ := τ)).abort.escaping = routine.abort.escaping.onSecond :=
      onSecond_escaping routine.abort
    dsimp only
    rw [habort, bind_run, bind_run, onSecond_run, onSecond_run]
    rcases routine.abort.escaping s' with ⟨e' | _, s''⟩
    · exact .error (hF e')
    · exact .error h

theorem Alike.ensuring (hw : work.Alike R S (Fails F)) (hF : ∀ e, F e e) (last : Attempt σ Unit) :
    (work.ensuring last.onSecond).Alike R S (Fails F) := by
  intro t u s htu
  have h := hw t u s htu
  unfold Attempt.ensuring
  generalize work (t, s) = o at h ⊢
  generalize work (u, s) = o' at h ⊢
  cases h with
  | ok h | error h =>
    dsimp only
    rw [onSecond_run, onSecond_run]
    rcases last _ with ⟨e' | _, s''⟩
    · exact .error (hF e')
    · first | exact .ok h | exact .error h

end Attempt

/-! ## Transactions -/

namespace SessionCalls

variable {calls : SessionCalls σ} {R : τ → τ → Prop} {S : α → τ → τ → Prop}
  {F : Failure → Failure → Prop} {work : Attempt (τ × σ) α}

theorem alongside_undo : (calls.alongside (τ := τ)).undo = calls.undo.onSecond := by
  funext ⟨t, s⟩
  have hr : (calls.alongside (τ := τ)).rollback (t, s) = calls.rollback.onSecond (t, s) := rfl
  rw [onSecond_run]
  unfold undo
  rw [hr, onSecond_run]
  rcases calls.rollback s with ⟨e | _, s'⟩
  · cases e <;> rfl
  · rfl

theorem alongside_start : (calls.alongside (τ := τ)).start = calls.start.onSecond := by
  funext ⟨t, s⟩
  have hb : (calls.alongside (τ := τ)).begin (t, s) = calls.begin.onSecond (t, s) := rfl
  rw [onSecond_run]
  unfold start Attempt.mapFailure
  rw [hb, onSecond_run]
  rcases calls.begin s with ⟨e | _, s'⟩
  · cases e <;> rfl
  · rfl

theorem alongside_finish : (calls.alongside (τ := τ)).finish = calls.finish.onSecond := by
  funext ⟨t, s⟩
  have hc : (calls.alongside (τ := τ)).commit (t, s) = calls.commit.onSecond (t, s) := rfl
  rw [onSecond_run]
  unfold finish
  rw [hc, alongside_undo, onSecond_run]
  rcases calls.commit s with ⟨e | _, s'⟩
  · cases e with
    | driver d =>
      dsimp only
      rw [onSecond_run]
      rcases calls.undo s' with ⟨_ | _, _⟩ <;> rfl
    | _ => rfl
  · rfl

/-- Around its work a session does not see the entity. -/
theorem alongside_unit : (calls.alongside (τ := τ)).unit = calls.unit.onSecond := by
  unfold unit Routine.onSecond
  rw [alongside_start, alongside_undo, alongside_finish]

/-- A transaction ends alike if its work does: its calls do not see the entity. -/
theorem alike_transaction (hF : ∀ e, F e e) (hw : work.Alike R S (Fails F)) :
    (calls.alongside.transaction work).Alike R S (Fails F) := by
  have hacquire : (calls.alongside (τ := τ)).acquire.escaping = calls.acquire.escaping.onSecond :=
    onSecond_escaping calls.acquire
  have hclose : (calls.alongside (τ := τ)).close.escaping = calls.close.escaping.onSecond :=
    onSecond_escaping calls.close
  rw [transaction_eq_ensuring, hacquire, hclose, alongside_unit]
  refine (alike_onSecond calls.acquire.escaping fun e _ _ _ => hF e).bind fun _ => ?_
  exact (alike_around hF calls.unit hw).ensuring hF calls.close.escaping

end SessionCalls

end TriviaStore
