import TriviaStore.Proofs.Transaction.Scope
import TriviaStore.Transaction.Script

/-! # The protocol of a transaction

A transaction is put on record: every call on its session and the work itself, each with what came of
it, and every event reported. The records that there can be are the stories below, whatever the session
and the work do and however they fail. From the stories follows which calls a transaction makes, what
comes out of it, and what it reports.
-/

namespace TriviaStore

open Attempt

variable {σ α β : Type}

/-- A step that was taken, with what came of it, or an event that was reported. Of the steps, the work
alone has a result. -/
inductive Entry (α : Type)
  | took (step : Step) (outcome : Except Failure (Option α))
  | told (event : Event)
  deriving Repr

/-- What happened in a transaction, in order. -/
abbrev Record (α : Type) := List (Entry α)

/-- The step put on record, with the part of its result that is kept. -/
def Attempt.recorded (step : Step) (keep : β → Option α) (a : Attempt σ β) :
    Attempt (Record α × σ) β := fun (es, s) =>
  ((a s).1, (es ++ [.took step ((a s).1.map keep)], (a s).2))

namespace SessionCalls

/-- The calls of a session, put on record. -/
def recorded (calls : SessionCalls σ) : SessionCalls (Record α × σ) where
  acquire := calls.acquire.recorded .acquire fun _ => none
  begin := calls.begin.recorded .begin fun _ => none
  commit := calls.commit.recorded .commit fun _ => none
  rollback := calls.rollback.recorded .rollback fun _ => none
  close := calls.close.recorded .close fun _ => none
  note e := fun (es, s) => (es ++ [.told e], calls.note e s)

section Calls

variable (calls : SessionCalls σ)

@[simp] theorem recorded_acquire : (calls.recorded (α := α)).acquire =
    calls.acquire.recorded .acquire fun _ => none := rfl

@[simp] theorem recorded_begin : (calls.recorded (α := α)).begin =
    calls.begin.recorded .begin fun _ => none := rfl

@[simp] theorem recorded_commit : (calls.recorded (α := α)).commit =
    calls.commit.recorded .commit fun _ => none := rfl

@[simp] theorem recorded_rollback : (calls.recorded (α := α)).rollback =
    calls.rollback.recorded .rollback fun _ => none := rfl

@[simp] theorem recorded_close : (calls.recorded (α := α)).close =
    calls.close.recorded .close fun _ => none := rfl

@[simp] theorem recorded_note (e : Event) (es : Record α) (s : σ) :
    calls.recorded.note e (es, s) = (es ++ [.told e], calls.note e s) := rfl

end Calls

/-- A transaction, put on record. -/
def transactionRecorded (calls : SessionCalls σ) (work : Attempt σ α) : Attempt (Record α × σ) α :=
  calls.recorded.transaction (work.recorded .work some)

end SessionCalls

/-! ## Stories -/

/-- A driver error of beginning or committing is the cause of the error that the transaction ends with;
any other error is kept. -/
def Failure.inTransaction (message : String) : Failure → Failure
  | .driver d => .store (.transaction message (some d))
  | e => e

def Failure.isDriver : Failure → Bool
  | .driver _ => true
  | _ => false

@[simp] theorem Failure.isDriver_driver (d : DriverError) : (Failure.driver d).isDriver = true := rfl

/-- Rolling back, with the failure that takes the place of the one that made it necessary, if any. -/
inductive UndoStory : Record α → Option Failure → Prop
  | rolledBack : UndoStory [.took .rollback (.ok none), .told .rolledBack] none
  | reported (d : DriverError) :
      UndoStory [.took .rollback (.error (.driver d)), .told (.rollbackFailed d.message)] none
  | failed {e : Failure} (h : e.isDriver = false) : UndoStory [.took .rollback (.error e)] (some e)

/-- What happens between opening and closing the session. -/
inductive InnerStory : Record α → Except Failure α → Prop
  | notBegun (e : Failure) :
      InnerStory [.took .begin (.error e)]
        (.error (e.inTransaction "failed to begin transaction").escape)
  | workFailed {us : Record α} {o : Option Failure} (e : Failure) (undone : UndoStory us o) :
      InnerStory (.took .begin (.ok none) :: .took .work (.error e) :: us)
        (.error ((o.map Failure.escape).getD e))
  | refused {us : Record α} {o : Option Failure} (a : α) (d : DriverError) (undone : UndoStory us o) :
      InnerStory (.took .begin (.ok none) :: .took .work (.ok (some a)) ::
          .took .commit (.error (.driver d)) :: us)
        (.error (o.getD ((Failure.driver d).inTransaction "failed to commit transaction")).escape)
  | stopped (a : α) {e : Failure} (h : e.isDriver = false) :
      InnerStory [.took .begin (.ok none), .took .work (.ok (some a)), .took .commit (.error e)]
        (.error e.escape)
  | committed (a : α) :
      InnerStory [.took .begin (.ok none), .took .work (.ok (some a)), .took .commit (.ok none),
        .told .committed] (.ok a)

/-- What happens in a transaction, and what comes out of it. -/
inductive Story : Record α → Except Failure α → Prop
  | notOpened (e : Failure) : Story [.took .acquire (.error e)] (.error e.escape)
  | closed {es : Record α} {r : Except Failure α} (inner : InnerStory es r) :
      Story (.took .acquire (.ok none) :: es ++ [.took .close (.ok none)]) r
  | notClosed {es : Record α} {r : Except Failure α} (e : Failure) (inner : InnerStory es r) :
      Story (.took .acquire (.ok none) :: es ++ [.took .close (.error e)]) (.error e.escape)

/-! ## Runs -/

/-- On record an attempt does what it does off record, and what it adds to the record goes with what
comes of it. -/
def Attempt.OnRecord (P : Record α → Except Failure β → Prop) (b : Attempt (Record α × σ) β)
    (a : Attempt σ β) : Prop :=
  ∀ es s, ∃ added, b (es, s) = ((a s).1, (es ++ added, (a s).2)) ∧ P added (a s).1

theorem Attempt.onRecord_of {P : Record α → Except Failure β → Prop} {b : Attempt (Record α × σ) β}
    {a : Attempt σ β} (h : ∀ es s, ∃ us r s', b (es, s) = (r, (es ++ us, s')) ∧ a s = (r, s') ∧
      P us r) : OnRecord P b a := by
  intro es s
  obtain ⟨us, r, s', hb, ha, hP⟩ := h es s
  exact ⟨us, by rw [hb, ha], by rw [ha]; exact hP⟩

theorem Attempt.onRecord_recorded {step : Step} (keep : β → Option α) (a : Attempt σ β) :
    OnRecord (fun us r => us = [.took step (r.map keep)]) (a.recorded step keep) a :=
  fun _ _ => ⟨_, rfl, rfl⟩

theorem Attempt.OnRecord.bind {γ : Type} {P : Record α → Except Failure β → Prop}
    {Q : β → Record α → Except Failure γ → Prop} {R : Record α → Except Failure γ → Prop}
    {b : Attempt (Record α × σ) β} {a : Attempt σ β} {g : β → Attempt (Record α × σ) γ}
    {f : β → Attempt σ γ} (ha : OnRecord P b a) (hf : ∀ x, OnRecord (Q x) (g x) (f x))
    (herror : ∀ {us e}, P us (.error e) → R us (.error e))
    (hok : ∀ {us vs x r}, P us (.ok x) → Q x vs r → R (us ++ vs) r) :
    OnRecord R (b >>= g) (a >>= f) := by
  intro es s
  obtain ⟨us, hb, hus⟩ := ha es s
  rcases hs : a s with ⟨e | x, s₁⟩ <;> rw [hs] at hb hus
  · exact ⟨us, by rw [bind_of_error hb, bind_of_error hs], by rw [bind_of_error hs]; exact herror hus⟩
  · obtain ⟨vs, hg, hvs⟩ := hf x (es ++ us) s₁
    refine ⟨us ++ vs, ?_, ?_⟩
    · rw [bind_of_ok hb, bind_of_ok hs, hg, List.append_assoc]
    · rw [bind_of_ok hs]
      exact hok hus hvs

/-- What becomes of a record when what is put on it comes out of a routine. -/
theorem Attempt.OnRecord.escaping {P Q : Record α → Except Failure β → Prop}
    {b : Attempt (Record α × σ) β} {a : Attempt σ β} (h : OnRecord P b a)
    (herror : ∀ {us e}, P us (.error e) → Q us (.error e.escape))
    (hok : ∀ {us x}, P us (.ok x) → Q us (.ok x)) : OnRecord Q b.escaping a.escaping := by
  refine onRecord_of fun es s => ?_
  obtain ⟨us, hb, hus⟩ := h es s
  rcases ha : a s with ⟨e | x, s₁⟩ <;> rw [ha] at hb hus
  · exact ⟨us, _, _, escaping_of_error hb, escaping_of_error ha, herror hus⟩
  · exact ⟨us, _, _, escaping_eq_ok.mpr hb, escaping_eq_ok.mpr ha, hok hus⟩

/-- Work on record, while a routine on record pauses. -/
theorem Routine.onRecord_around {E L A : Record α → Except Failure Unit → Prop}
    {W R : Record α → Except Failure β → Prop} {recorded : Routine (Record α × σ)}
    {routine : Routine σ} {w : Attempt (Record α × σ) β} {work : Attempt σ β}
    (henter : OnRecord E recorded.enter routine.enter) (hwork : OnRecord W w work)
    (hleave : OnRecord L recorded.leave routine.leave)
    (habort : OnRecord A recorded.abort routine.abort)
    (entering : ∀ {us e}, E us (.error e) → R us (.error e.escape))
    (leaving : ∀ {us vs ws x e}, E us (.ok ()) → W vs (.ok x) → L ws (.error e) →
      R (us ++ (vs ++ ws)) (.error e.escape))
    (done : ∀ {us vs ws x}, E us (.ok ()) → W vs (.ok x) → L ws (.ok ()) →
      R (us ++ (vs ++ ws)) (.ok x))
    (aborting : ∀ {us vs ws d e}, E us (.ok ()) → W vs (.error d) → A ws (.error e) →
      R (us ++ (vs ++ ws)) (.error e.escape))
    (working : ∀ {us vs ws e}, E us (.ok ()) → W vs (.error e) → A ws (.ok ()) →
      R (us ++ (vs ++ ws)) (.error e)) :
    OnRecord R (recorded.around w) (routine.around work) := by
  refine onRecord_of fun es s => ?_
  obtain ⟨us, hre, hus⟩ := henter es s
  rcases he : routine.enter s with ⟨e | _, s₁⟩ <;> rw [he] at hre hus
  · exact ⟨us, _, _, around_of_notEntered hre, around_of_notEntered he, entering hus⟩
  obtain ⟨vs, hrw, hvs⟩ := hwork (es ++ us) s₁
  have hassoc (ws : Record α) : es ++ us ++ vs ++ ws = es ++ (us ++ (vs ++ ws)) := by simp
  rcases hw : work s₁ with ⟨d | x, s₂⟩ <;> rw [hw] at hrw hvs
  · obtain ⟨ws, hra, hws⟩ := habort (es ++ us ++ vs) s₂
    rcases ha : routine.abort s₂ with ⟨e | _, s₃⟩ <;> rw [ha] at hra hws <;> rw [hassoc] at hra
    · exact ⟨_, _, _, around_eq_error.mpr (.aborting hre hrw hra),
        around_eq_error.mpr (.aborting he hw ha), aborting hus hvs hws⟩
    · exact ⟨_, _, _, around_eq_error.mpr (.working hre hrw hra),
        around_eq_error.mpr (.working he hw ha), working hus hvs hws⟩
  · obtain ⟨ws, hrl, hws⟩ := hleave (es ++ us ++ vs) s₂
    rcases hl : routine.leave s₂ with ⟨e | _, s₃⟩ <;> rw [hl] at hrl hws <;> rw [hassoc] at hrl
    · exact ⟨_, _, _, around_eq_error.mpr (.leaving hre hrw hrl),
        around_eq_error.mpr (.leaving he hw hl), leaving hus hvs hws⟩
    · exact ⟨_, _, _, around_eq_ok.mpr ⟨_, _, hre, hrw, hrl⟩,
        around_eq_ok.mpr ⟨_, _, he, hw, hl⟩, done hus hvs hws⟩

namespace SessionCalls

variable (calls : SessionCalls σ) (work : Attempt σ α)

/-- Undoing fails only with an error that takes the place of the one that made it necessary. -/
theorem undo_onRecord : OnRecord (fun us r => ∃ o, UndoStory us o ∧ r = o.elim (.ok ()) .error)
    (calls.recorded (α := α)).undo calls.undo := by
  intro es s
  unfold undo
  rcases hr : calls.rollback s with ⟨e | _, s'⟩
  · cases e with
    | driver d =>
      exact ⟨_, by simp [Attempt.recorded, hr, Except.map], none, .reported d, rfl⟩
    | _ =>
      exact ⟨_, by simp [Attempt.recorded, hr, Except.map], some _, .failed rfl, rfl⟩
  · exact ⟨_, by simp [Attempt.recorded, hr, Except.map], none, .rolledBack, rfl⟩

theorem start_onRecord : OnRecord
    (fun us r => (∃ e, us = [.took .begin (.error e)] ∧
        r = .error (e.inTransaction "failed to begin transaction")) ∨
      us = [.took .begin (.ok none)] ∧ r = .ok ()) (calls.recorded (α := α)).start calls.start := by
  intro es s
  unfold start Attempt.mapFailure
  rcases hb : calls.begin s with ⟨e | _, s'⟩
  · refine ⟨[.took .begin (.error e)], ?_, .inl ⟨e, rfl, ?_⟩⟩
    · simp [Attempt.recorded, hb, Except.map]
    · cases e <;> rfl
  · exact ⟨_, by simp [Attempt.recorded, hb, Except.map], .inr ⟨rfl, rfl⟩⟩

theorem finish_onRecord : OnRecord
    (fun us r => (us = [.took .commit (.ok none), .told .committed] ∧ r = .ok ()) ∨
      (∃ e, e.isDriver = false ∧ us = [.took .commit (.error e)] ∧ r = .error e) ∨
      ∃ d vs o, UndoStory vs o ∧ us = .took .commit (.error (.driver d)) :: vs ∧
        r = .error (o.getD ((Failure.driver d).inTransaction "failed to commit transaction")))
    (calls.recorded (α := α)).finish calls.finish := by
  intro es s
  unfold finish
  rcases hc : calls.commit s with ⟨e | _, s₁⟩
  · cases e with
    | driver d =>
      obtain ⟨vs, hr, o, hvs, hu⟩ := calls.undo_onRecord (es ++ [.took .commit (.error (.driver d))]) s₁
      rcases hundo : calls.undo s₁ with ⟨r, s₂⟩
      rw [hundo] at hr hu
      obtain rfl : r = o.elim (.ok ()) .error := hu
      refine ⟨.took .commit (.error (.driver d)) :: vs, ?_, .inr (.inr ⟨d, vs, o, hvs, rfl, ?_⟩)⟩
        <;> cases o <;>
        simp [Attempt.recorded, hc, hundo, hr, Except.map, Failure.inTransaction]
    | _ =>
      exact ⟨_, by simp [Attempt.recorded, hc, Except.map], .inr (.inl ⟨_, rfl, rfl, rfl⟩)⟩
  · exact ⟨_, by simp [Attempt.recorded, hc, Except.map], .inl ⟨rfl, rfl⟩⟩

/-- From beginning on. -/
theorem unit_onRecord : OnRecord InnerStory
    (calls.recorded.unit.around (work.recorded .work some)) (calls.unit.around work) := by
  refine Routine.onRecord_around calls.start_onRecord (onRecord_recorded some work)
    calls.finish_onRecord calls.undo_onRecord ?entering ?leaving ?done ?aborting ?working
  case entering =>
    rintro us e (⟨f, rfl, h⟩ | ⟨-, h⟩) <;> cases h
    exact .notBegun f
  case leaving =>
    rintro us vs ws x e (⟨_, _, h⟩ | ⟨rfl, -⟩) rfl hfinish
    · cases h
    · rcases hfinish with ⟨-, h⟩ | ⟨f, hf, rfl, h⟩ | ⟨d, us, o, hus, rfl, h⟩ <;> cases h
      · exact .stopped x hf
      · exact .refused x d hus
  case done =>
    rintro us vs ws x (⟨_, _, h⟩ | ⟨rfl, -⟩) rfl hfinish
    · cases h
    · rcases hfinish with ⟨rfl, -⟩ | ⟨_, _, _, h⟩ | ⟨_, _, _, _, _, h⟩
      · exact .committed x
      · cases h
      · cases h
  case aborting =>
    rintro us vs ws d e (⟨_, _, h⟩ | ⟨rfl, -⟩) rfl ⟨o, hws, hundo⟩
    · cases h
    · cases o <;> cases hundo
      exact .workFailed d hws
  case working =>
    rintro us vs ws e (⟨_, _, h⟩ | ⟨rfl, -⟩) rfl ⟨o, hws, hundo⟩
    · cases h
    · cases o <;> cases hundo
      exact .workFailed e hws

/-- The session is closed last, and an error of closing it takes the place of whatever there was. -/
theorem closing_onRecord {P : Record α → Except Failure α → Prop}
    {b : Attempt (Record α × σ) α} {a : Attempt σ α} (h : OnRecord P b a) : OnRecord
    (fun us r => ∃ vs r', P vs r' ∧ ((us = vs ++ [.took .close (.ok none)] ∧ r = r') ∨
      ∃ e, us = vs ++ [.took .close (.error e)] ∧ r = .error e.escape))
    (b.ensuring calls.recorded.close.escaping) (a.ensuring calls.close.escaping) := by
  refine onRecord_of fun es s => ?_
  obtain ⟨vs, hb, hvs⟩ := h es s
  rcases ha : a s with ⟨r, s₁⟩
  rw [ha] at hb hvs
  have hrecorded : calls.recorded.close (es ++ vs, s₁) = ((calls.close s₁).1,
      (es ++ vs ++ [.took .close ((calls.close s₁).1.map fun _ => none)], (calls.close s₁).2)) := rfl
  rcases hc : calls.close s₁ with ⟨e | _, s₂⟩ <;> rw [hc, List.append_assoc] at hrecorded
  · exact ⟨_, _, _, ensuring_of_error hb (escaping_of_error hrecorded),
      ensuring_of_error ha (escaping_of_error hc), vs, r, hvs, .inr ⟨e, rfl, rfl⟩⟩
  · exact ⟨_, _, _, ensuring_of_ok hb (escaping_eq_ok.mpr hrecorded),
      ensuring_of_ok ha (escaping_eq_ok.mpr hc), vs, r, hvs, .inl ⟨rfl, rfl⟩⟩

/-- A transaction put on record is the transaction, and its record is a story. -/
theorem transaction_onRecord :
    OnRecord Story (calls.transactionRecorded work) (calls.transaction work) := by
  have hopened : OnRecord
      (fun us r => (∃ e, us = [.took .acquire (.error e)] ∧ r = .error e.escape) ∨
        us = [.took .acquire (.ok none)] ∧ r = .ok ())
      (calls.recorded (α := α)).acquire.escaping calls.acquire.escaping :=
    (onRecord_recorded (fun _ => none) calls.acquire).escaping
      (fun h => .inl ⟨_, h, rfl⟩) (fun h => .inr ⟨h, rfl⟩)
  unfold transactionRecorded
  rw [transaction_eq_ensuring, transaction_eq_ensuring]
  refine hopened.bind (fun _ => calls.closing_onRecord (calls.unit_onRecord work)) ?_ ?_
  · rintro us e (⟨f, rfl, h⟩ | ⟨-, h⟩) <;> cases h
    exact .notOpened f
  · rintro us vs x r (⟨_, _, h⟩ | ⟨rfl, -⟩) ⟨ws, r', hws, hclosed⟩
    · cases h
    · rcases hclosed with ⟨rfl, rfl⟩ | ⟨e, rfl, rfl⟩
      · exact .closed hws
      · exact .notClosed e hws

end SessionCalls

/-! ## What the stories have in common -/

namespace Record

/-- The steps that were taken, in order. -/
@[simp] def steps : Record α → List Step
  | [] => []
  | .took s _ :: es => s :: steps es
  | .told _ :: es => steps es

@[simp] def Returned (step : Step) (es : Record α) : Prop := ∃ x, .took step (.ok x) ∈ es

@[simp] def Raised (step : Step) (e : Failure) (es : Record α) : Prop := .took step (.error e) ∈ es

end Record

/-- Beginning fails with an exhaustion. -/
def Script.exhausted : Script
  | .begin => some (.outside .exhausted "x")
  | _ => none

end TriviaStore
