import TriviaStore.Failure

/-! # Attempts

An attempt works on a state and may fail; whatever its outcome, it leaves a state behind. Nothing is
undone by failing: an attempt that has to be undone says so itself.
-/

namespace TriviaStore

/-- A fallible action on a state. -/
def Attempt (σ α : Type) := σ → Except Failure α × σ

variable {σ τ α β : Type}

namespace Attempt

/-- Succeed and change nothing. -/
def done (a : α) : Attempt σ α := fun s => (.ok a, s)

/-- Fail and change nothing. -/
def fail (e : Failure) : Attempt σ α := fun s => (.error e, s)

/-- Go on with the result, if there is one. -/
def andThen (a : Attempt σ α) (f : α → Attempt σ β) : Attempt σ β := fun s =>
  match a s with
  | (.ok x, s') => f x s'
  | (.error e, s') => (.error e, s')

instance : Monad (Attempt σ) where
  pure := done
  bind := andThen

def read : Attempt σ σ := fun s => (.ok s, s)

def update (f : σ → σ) : Attempt σ Unit := fun s => (.ok (), f s)

/-- Replace the failure, if there is one, in view of the state it left behind. -/
def mapFailure (f : σ → Failure → Failure) (a : Attempt σ α) : Attempt σ α := fun s =>
  match a s with
  | (.ok x, s') => (.ok x, s')
  | (.error e, s') => (.error (f s' e), s')

/-- A driver error becomes the cause of a store error; other failures pass. -/
def wrapping (message : σ → String) (a : Attempt σ α) : Attempt σ α :=
  a.mapFailure fun s e =>
    match e with
    | .driver d => .store (.because (message s) d)
    | e => e

/-- A store error gains context; other failures pass. -/
def inContext (context : σ → String) (a : Attempt σ α) : Attempt σ α :=
  a.mapFailure fun s e =>
    match e with
    | .store d => .store (d.addContext (context s))
    | e => e

/-- Succeed in any case, with the outcome. -/
def caught (a : Attempt σ α) : Attempt σ (Except Failure α) := fun s =>
  let (r, s') := a s
  (.ok r, s')

/-- Do something last, whatever the outcome; if that fails, its failure replaces the outcome. -/
def ensuring (a : Attempt σ α) (last : Attempt σ Unit) : Attempt σ α := fun s =>
  let (r, s') := a s
  match last s' with
  | (.ok _, s'') => (r, s'')
  | (.error e, s'') => (.error e, s'')

/-- Do something last unless there is a result to go on with. -/
def ensuringOnFailure (a : Attempt σ α) (last : Attempt σ Unit) : Attempt σ α := fun s =>
  match a s with
  | (.ok x, s') => (.ok x, s')
  | (.error e, s') => (fail e).ensuring last s'

/-- Work on the second half of the state. -/
def onSecond (a : Attempt σ α) : Attempt (τ × σ) α := fun (t, s) =>
  let (r, s') := a s
  (r, (t, s'))

/-- Work on the members of a list one after the other, up to the first failure. -/
def eachOf (a : Attempt (τ × σ) Unit) : List τ → σ → Except Failure Unit × (List τ × σ)
  | [], s => (.ok (), ([], s))
  | t :: ts, s =>
    match a (t, s) with
    | (.ok (), (t', s')) =>
      let (r, (ts', s'')) := eachOf a ts s'
      (r, (t' :: ts', s''))
    | (.error e, (t', s')) => (.error e, (t' :: ts, s'))

/-- `eachOf` with the list as a part of the state. -/
def each (a : Attempt (τ × σ) Unit) : Attempt (List τ × σ) Unit := fun (ts, s) => eachOf a ts s

/-- Repeat an action for every member of a list, up to the first failure. -/
def forAll (f : τ → Attempt σ Unit) : List τ → Attempt σ Unit
  | [] => done ()
  | t :: ts => (f t).andThen fun _ => forAll f ts

/-- Collect what an action gives for every member of a list, up to the first failure. -/
def collect (f : τ → Attempt σ α) : List τ → Attempt σ (List α)
  | [] => done []
  | t :: ts => (f t).andThen fun a => (collect f ts).andThen fun as => done (a :: as)

/-! ## Laws -/

theorem done_andThen (a : α) (f : α → Attempt σ β) : (done a).andThen f = f a := rfl

theorem andThen_done (a : Attempt σ α) : a.andThen done = a := by
  funext s; simp only [andThen]; split <;> simp_all [done]

theorem andThen_assoc {γ : Type} (a : Attempt σ α) (f : α → Attempt σ β) (g : β → Attempt σ γ) :
    (a.andThen f).andThen g = a.andThen fun x => (f x).andThen g := by
  funext s; simp only [andThen]; split <;> rename_i h <;> split at h <;> simp_all

instance : LawfulMonad (Attempt σ) :=
  LawfulMonad.mk' (Attempt σ)
    (fun a => andThen_done a)
    (fun a f => done_andThen a f)
    (fun a f g => andThen_assoc a f g)

theorem length_eachOf (a : Attempt (τ × σ) Unit) (ts : List τ) (s : σ) :
    (eachOf a ts s).2.1.length = ts.length := by
  induction ts generalizing s with
  | nil => rfl
  | cons t ts ih => simp only [eachOf]; split <;> simp [ih]

end Attempt

end TriviaStore
