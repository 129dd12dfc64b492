import TriviaStore.Proofs.Connection.Failing
import TriviaStore.Proofs.Reconcile.Meets
import TriviaStore.Proofs.Store.Origin
import TriviaStore.Proofs.Tables.Refusal

/-! # What the store reports

Whatever is asked of a store, what the driver rejects is told as the cause of a store error, and what the
store finds missing by itself is told without a cause. The exception are integers outside of 64 bits:
they are not rejected in the driver's words, and no part of the store takes them for a driver error.
-/

namespace TriviaStore

open Attempt

/-! ## Failures -/

/-- The plan disturbs calls with driver errors only, and by keeping them from matching rows. -/
def Plan.Driven (plan : Plan Statement) : Prop :=
  ∀ past s f, plan past s = some (.fail f) → ∃ d, f = .driver d

theorem Plan.driven_quiet : Plan.quiet.Driven := by
  intro past s f h
  cases h

/-- What a statement can fail with. -/
inductive Raised (plan : Plan Statement) (ns : List Int) : Failure → Prop
  | disturbed {past : List Statement} {s : Statement} {d : DriverError}
      (h : plan past s = some (.fail (.driver d))) : Raised plan ns (.driver d)
  | refused {e : Failure} (h : Tables.Refusal ns e) : Raised plan ns e

/-- What the store tells of a failure. -/
inductive Reported (plan : Plan Statement) (ns : List Int) : Failure → Prop
  /-- Something was rejected: the driver's error is the cause. -/
  | rejected {e : StoreError} {d : DriverError} (raised : Raised plan ns (.driver d))
      (kind : e.kind = .general ∨ e.kind = .transaction) (cause : e.cause = some d) :
      Reported plan ns (.store e)
  /-- What was asked for is not there: that has no cause. -/
  | missing {e : StoreError} (kind : e.kind.id?.isSome = true ∨ e.kind = .invalidOperation)
      (cause : e.cause = none) : Reported plan ns (.store e)
  | unfit {n : Int} (mem : n ∈ ns) (unfit : fits n = false) : Reported plan ns .overflow

variable {plan : Plan Statement} {ns : List Int}

theorem Raised.driver_or_unfit {f : Failure} (h : Raised plan ns f) :
    (∃ d, f = .driver d) ∨ ∃ n ∈ ns, fits n = false ∧ f = .overflow := by
  cases h with
  | disturbed h => exact .inl ⟨_, rfl⟩
  | refused h =>
    cases h with
    | violated rule => exact .inl ⟨_, rfl⟩
    | full => exact .inl ⟨_, rfl⟩
    | unfit mem unfit => exact .inr ⟨_, mem, unfit, rfl⟩

theorem Reported.of_raised {f : Failure} (h : Raised plan ns f) (message : String) :
    Reported plan ns (f.wrappedIn message) := by
  rcases h.driver_or_unfit with ⟨d, rfl⟩ | ⟨n, mem, unfit, rfl⟩
  · exact .rejected h (.inl rfl) rfl
  · exact .unfit mem unfit

/-- A transaction that cannot be begun or committed. -/
theorem Reported.of_session {f : Failure} (h : Raised plan ns f) (message : String) :
    Reported plan ns (f.inTransaction message).escape := by
  rcases h.driver_or_unfit with ⟨d, rfl⟩ | ⟨n, mem, unfit, rfl⟩
  · exact .rejected h (.inr rfl) rfl
  · exact .unfit mem unfit

theorem Reported.under {f : Failure} (h : Reported plan ns f) (context : String) :
    Reported plan ns (f.under context) := by
  cases h with
  | rejected raised kind cause => exact .rejected raised kind cause
  | missing kind cause => exact .missing kind cause
  | unfit mem unfit => exact .unfit mem unfit

theorem Reported.wrappedIn {f : Failure} (h : Reported plan ns f) (message : String) :
    Reported plan ns (f.wrappedIn message) := by
  cases h with
  | rejected raised kind cause => exact .rejected raised kind cause
  | missing kind cause => exact .missing kind cause
  | unfit mem unfit => exact .unfit mem unfit

theorem reported_missed (w : Miss) (i : Int) : Reported plan ns (.store (.missed w i)) :=
  .missing (.inl rfl) rfl

/-! ## Statements -/

/-- The session sees sound tables. -/
def Connection.SeesSound (c : Connection) : Prop := c.working.Sound

namespace Connection

variable {α : Type} {table : Table} {c c' : Connection} {e : Failure}

theorem issue_error {s : Statement} {act : Connection → Except Failure α × Connection}
    (h : issue plan s act c = (.error e, c')) :
    plan c.issued s = some (.fail e) ∨ act { c with issued := c.issued ++ [s] } = (.error e, c') := by
  unfold Connection.issue at h
  split at h
  · rename_i hp
    cases h
    exact .inl hp
  · exact .inr h

theorem apply_error {change : Tables → Except Failure (α × Tables)}
    (h : apply change c = (.error e, c')) : change c.working = .error e := by
  unfold Connection.apply at h
  split at h
  · cases h
  · rename_i hc
    cases h
    exact hc

theorem raised_of_plan (hplan : plan.Driven) {past : List Statement} {s : Statement} {f : Failure}
    (h : plan past s = some (.fail f)) : Raised plan ns f := by
  obtain ⟨d, rfl⟩ := hplan past s f h
  exact .disturbed h

theorem meets_query (hplan : plan.Driven) {A : α → Prop} {read : Tables → Except Failure α}
    (hread : ∀ t, t.Sound → Tables.Refuses ns (read t))
    (hA : ∀ {t a}, t.Sound → read t = .ok a → A a) :
    (query plan table read).Meets SeesSound (fun a c => A a ∧ SeesSound c) (Raised plan ns) := by
  refine meets_of (fun {c a c'} hc h => ?_) fun {c e c'} hc h => ?_
  · obtain ⟨hr, hw⟩ := query_ok h
    unfold SeesSound
    exact ⟨hA hc hr, hw ▸ hc⟩
  · rcases issue_error h with h | h
    · exact raised_of_plan hplan h
    · exact .refused (hread _ hc e (Prod.mk.inj h).1)

theorem meets_insert (hplan : plan.Driven) {change : Tables → Except Failure (Int × Tables)}
    (hchange : ∀ t, Tables.Refuses ns (change t))
    (hok : ∀ {t id t'}, t.Sound → change t = .ok (id, t') → fits id = true ∧ t'.Sound) :
    (insert plan table change).Meets SeesSound (fun id c => Fitting ns id ∧ SeesSound c)
      (Raised plan ns) := by
  refine meets_of (fun {c id c'} hc h => ?_) fun {c e c'} hc h => ?_
  · obtain ⟨hfit, hs⟩ := hok hc (insert_ok h)
    exact ⟨.of_fits hfit, hs⟩
  · rcases issue_error h with h | h
    · exact raised_of_plan hplan h
    · exact .refused (hchange _ e (apply_error h))

theorem meets_write (hplan : plan.Driven) {s : Statement}
    {change : Tables → Except Failure (Nat × Tables)} (hchange : ∀ t, Tables.Refuses ns (change t))
    (hok : ∀ {t n t'}, t.Sound → change t = .ok (n, t') → t'.Sound) :
    (write plan s change).Meets SeesSound (fun _ => SeesSound) (Raised plan ns) := by
  refine meets_of (fun {c n c'} hc h => ?_) fun {c e c'} hc h => ?_ <;> unfold Connection.write at h <;>
    split at h
  · cases h
    exact hc
  · have h := apply_ok (issue_ok h)
    exact hok hc h
  · cases h
  · rcases issue_error h with h | h
    · exact raised_of_plan hplan h
    · exact .refused (hchange _ e (apply_error h))

end Connection

theorem meets_assigning {τ : Type} {J K : τ → Prop} {insert : τ → Attempt Connection Int}
    {set : Int → τ → τ}
    (h : ∀ x, J x → (insert x).Meets Connection.SeesSound
      (fun id c => Fitting ns id ∧ Connection.SeesSound c) (Raised plan ns))
    (hset : ∀ {id x}, Fitting ns id → J x → K (set id x)) :
    (assigning insert set).Meets (Both J Connection.SeesSound)
      (fun _ => Both K Connection.SeesSound) (Raised plan ns) := by
  refine meets_of ?_ ?_
  · rintro ⟨x, c⟩ ⟨⟩ y ⟨hx, hc⟩ ha
    obtain ⟨id, c', hi, rfl⟩ := assigning_eq_ok.mp ha
    obtain ⟨hid, hc'⟩ := (h x hx).ok hc hi
    exact ⟨hset hid hx, hc'⟩
  · rintro ⟨x, c⟩ e y ⟨hx, hc⟩ ha
    obtain ⟨c', hi, rfl⟩ := assigning_eq_error.mp ha
    exact (h x hx).error hc hi

/-! ## Integers passed in

The ids of parents are not among them: a parent is named by its own id.
-/

def Choice.integers (x : Choice) : List Int := [x.id]

def Question.integers (q : Question) : List Int :=
  q.id :: (q.position.toList ++ q.choices.flatMap Choice.integers)

def Quiz.integers (v : Quiz) : List Int := v.id :: v.questions.flatMap Question.integers

/-- The integers passed in with a choice fit, or are among those that need not. -/
def Choice.AllFitting (ns : List Int) (x : Choice) : Prop := ∀ n ∈ x.integers, Fitting ns n

def Question.AllFitting (ns : List Int) (q : Question) : Prop := ∀ n ∈ q.integers, Fitting ns n

def Quiz.AllFitting (ns : List Int) (v : Quiz) : Prop := ∀ n ∈ v.integers, Fitting ns n

theorem Choice.allFitting_iff {x : Choice} : x.AllFitting ns ↔ Fitting ns x.id := by
  simp [Choice.AllFitting, Choice.integers]

theorem Question.allFitting_iff {q : Question} : q.AllFitting ns ↔
    Fitting ns q.id ∧ (∀ n ∈ q.position, Fitting ns n) ∧ ∀ x ∈ q.choices, x.AllFitting ns := by
  simp only [Question.AllFitting, Question.integers, Choice.AllFitting, List.mem_cons, List.mem_append,
    Option.mem_toList, List.mem_flatMap, or_imp, forall_and, forall_eq, forall_exists_index, and_imp]
  refine and_congr_right fun _ => and_congr_right fun _ => ?_
  exact ⟨fun h x hx n hn => h n x hx hn, fun h n x hx hn => h x hx n hn⟩

theorem Quiz.allFitting_iff {v : Quiz} : v.AllFitting ns ↔
    Fitting ns v.id ∧ ∀ q ∈ v.questions, q.AllFitting ns := by
  simp only [Quiz.AllFitting, Quiz.integers, Question.AllFitting, List.mem_cons, List.mem_flatMap,
    or_imp, forall_and, forall_eq, forall_exists_index, and_imp]
  refine and_congr_right fun _ => ?_
  exact ⟨fun h q hq n hn => h n q hq hn, fun h n q hq hn => h q hq n hn⟩

theorem Question.allFitting_forgetChoices {q : Question} (h : q.AllFitting ns) :
    q.forgetChoices.AllFitting ns := by
  obtain ⟨hid, hposition, -⟩ := Question.allFitting_iff.mp h
  refine Question.allFitting_iff.mpr ⟨hid, hposition, fun x hx => ?_⟩
  obtain ⟨y, -, rfl⟩ := List.mem_map.mp hx
  exact Choice.allFitting_iff.mpr (.of_fits rfl)

/-! ## Children -/

section Children

variable (hplan : plan.Driven)
include hplan

theorem Choice.meets_reconciler : (Choice.reconciler plan).Meets Connection.SeesSound
    (fun x => x.AllFitting ns ∧ Fitting ns x.questionId) (Choice.AllFitting ns) (Fitting ns)
    (Raised plan ns) (Reported plan ns) where
  id := Choice.allFitting_iff.mp
  weaken h := h.1
  attach hp h := ⟨h, hp⟩
  existing {p} hp := by
    dsimp only [Choice.reconciler]
    refine Connection.meets_query hplan (fun t _ => (Tables.choicesOf_refuses hp).map) ?_
    intro t ids ht h i hi
    obtain ⟨rows, hrows, rfl⟩ := Except.map_eq_ok.mp h
    obtain ⟨r, hr, -⟩ := (Tables.mem_choicesOf ht hrows).mp hi
    obtain ⟨hmem, rfl⟩ := ht.choices.rowAt_eq_some.mp hr
    exact .of_fits (ht.choices_fit r hmem)
  reset := fun _ hs => hs
  create := by
    dsimp only [Choice.reconciler]
    refine meets_assigning (fun x hx => ?_) fun hi _ => Choice.allFitting_iff.mpr hi
    refine Connection.meets_insert hplan (fun t => Tables.insertChoice_refuses _ _ hx.2) fun ht h => ?_
    obtain ⟨_, _, _, _, _, _, _, hfit, _⟩ := Tables.insertChoice_eq_ok.mp h
    exact ⟨hfit, ht.insertChoice h⟩
  update {parent} hp := by
    rintro ⟨x, c⟩ ⟨hx, hc⟩
    have hw := Connection.meets_write (s := .update .choices) hplan
      (fun t => Tables.updateChoice_refuses (t := t) x.text x.correct (Choice.allFitting_iff.mp hx) hp)
      (fun ht h => ht.updateChoice h) c hc
    dsimp only [Choice.reconciler]
    rcases h : Connection.write plan (.update .choices)
      (Tables.updateChoice x.id parent x.text x.correct) c with ⟨e | n, c'⟩ <;> rw [h] at hw
    · exact hw
    · exact ⟨hx, hw⟩
  delete hi := Connection.meets_write hplan (fun _ => Tables.deleteChoice_refuses hi)
    fun ht h => ht.deleteChoice h
  descend := fun _ hs => hs
  note := fun h => h
  wrapped _ m h := .of_raised h m
  under _ m h := h.under m
  missed := reported_missed

theorem Question.meets_findOwner : (Question.findOwner plan).Meets
    (Both (Question.AllFitting ns) Connection.SeesSound)
    (fun _ => Both (Question.AllFitting ns) Connection.SeesSound) (Raised plan ns) := by
  rintro ⟨q, c⟩ ⟨hq, hc⟩
  have hquery : (Connection.query plan .questions (Tables.question? q.id)).Meets
      Connection.SeesSound (fun _ c => True ∧ c.SeesSound) (Raised plan ns) :=
    Connection.meets_query hplan
      (fun _ _ => Tables.question?_refuses (Question.allFitting_iff.mp hq).1) fun _ _ => trivial
  have hrow := hquery c hc
  dsimp only [Question.findOwner]
  rcases h : Connection.query plan .questions (Tables.question? q.id) c with ⟨e | _ | r, c'⟩ <;>
    rw [h] at hrow
  · exact hrow
  · exact ⟨hq, hrow.2⟩
  · exact ⟨hq, hrow.2⟩

theorem Question.meets_update {parent : Option Int} (hp : ∀ p ∈ parent, Fitting ns p) :
    (Question.update plan parent).Meets (Both (Question.AllFitting ns) Connection.SeesSound)
      (fun _ => Both (Question.AllFitting ns) Connection.SeesSound) (Raised plan ns) := by
  refine Meets.read_bind fun ⟨q, c⟩ hs => ?_
  obtain ⟨hid, hposition, -⟩ := Question.allFitting_iff.mp hs.1
  refine Meets.mono (P := Both (Question.AllFitting ns) Connection.SeesSound) ?_
    (by rintro _ rfl; exact hs) (fun _ _ h => h) fun _ h => h
  refine Meets.bind (Connection.meets_write hplan
    (fun _ => Tables.updateQuestion_refuses _ _ hid hp hposition)
    fun ht h => ht.updateQuestion h).onSecond fun rows => ?_
  split
  · exact (Question.meets_findOwner hplan).bind fun _ => meets_pure _ fun _ hs => hs
  · exact meets_pure _ fun _ hs => hs

theorem Question.meets_reconcileChoices : (Question.reconcileChoices plan).Meets
    (Both (Question.AllFitting ns) Connection.SeesSound)
    (fun _ => Both (Question.AllFitting ns) Connection.SeesSound) (Reported plan ns) := by
  rintro ⟨q, c⟩ ⟨hq, hc⟩
  obtain ⟨hid, hposition, hchoices⟩ := Question.allFitting_iff.mp hq
  have hr := (Choice.meets_reconciler hplan).reconcile hid (q.choices, c) ⟨hchoices, hc⟩
  dsimp only [Question.reconcileChoices]
  rcases h : (Choice.reconciler plan).reconcile q.id (q.choices, c) with ⟨e | ids, xs, c'⟩ <;>
    rw [h] at hr
  · exact hr
  · exact ⟨Question.allFitting_iff.mpr ⟨hid, hposition, hr.1⟩, hr.2⟩

theorem Question.meets_reconciler : (Question.reconciler plan).Meets Connection.SeesSound
    (fun q => q.AllFitting ns ∧ Fitting ns q.quizId) (Question.AllFitting ns) (Fitting ns)
    (Raised plan ns) (Reported plan ns) where
  id h := (Question.allFitting_iff.mp h).1
  weaken h := h.1
  attach hp h := ⟨h, hp⟩
  existing {p} hp := by
    dsimp only [Question.reconciler]
    refine Connection.meets_query hplan (fun t _ => (Tables.questionsOf_refuses hp).map) ?_
    intro t ids ht h i hi
    obtain ⟨rows, hrows, rfl⟩ := Except.map_eq_ok.mp h
    obtain ⟨r, hr, -⟩ := (Tables.mem_questionsOf ht hrows).mp hi
    obtain ⟨hmem, rfl⟩ := ht.questions.rowAt_eq_some.mp hr
    exact .of_fits (ht.questions_fit r hmem)
  reset := Attempt.meets_update fun _ hs =>
    ⟨⟨Question.allFitting_forgetChoices hs.1.1, hs.1.2⟩, hs.2⟩
  create := by
    dsimp only [Question.reconciler]
    refine meets_assigning (fun q hq => ?_) fun hi hq => ?_
    · obtain ⟨-, hposition, -⟩ := Question.allFitting_iff.mp hq.1
      refine Connection.meets_insert hplan
        (fun t => Tables.insertQuestion_refuses _ _ hq.2 hposition) fun ht h => ?_
      obtain ⟨_, _, _, _, _, _, hfit, _⟩ := Tables.insertQuestion_eq_ok.mp h
      exact ⟨hfit, ht.insertQuestion h⟩
    · obtain ⟨-, h⟩ := Question.allFitting_iff.mp hq.1
      exact Question.allFitting_iff.mpr ⟨hi, h⟩
  update hp := Question.meets_update hplan hp
  delete hi := Connection.meets_write hplan (fun _ => Tables.deleteQuestion_refuses hi)
    fun ht h => ht.deleteQuestion h
  descend := Question.meets_reconcileChoices hplan
  note := fun h => h
  wrapped _ m h := .of_raised h m
  under _ m h := h.under m
  missed := reported_missed

end Children

/-! ## Whole quizzes -/

namespace Store

variable {cond : Conditions} {e : Failure}

/-- A clock that shows a moment of the calendar, and a driver that raises errors of its own only. -/
structure Orderly (cond : Conditions) : Prop where
  dated : ∃ now, Moment.now? cond.clock = some now
  driven : cond.plan.Driven

theorem meets_writeQuiz (hc : Orderly cond) : (writeQuiz cond).Meets
    (Both (Quiz.AllFitting ns) Connection.SeesSound)
    (fun _ => Both (Quiz.AllFitting ns) Connection.SeesSound) (Reported cond.plan ns) := by
  have hinsert {v : Quiz} {now : Moment} (hnow : Moment.now? cond.clock = some now) :
      (Connection.insert cond.plan .quizzes
        (Tables.insertQuiz v.title v.slug v.description now.toMillis)).Meets Connection.SeesSound
        (fun id c => Fitting ns id ∧ c.SeesSound) (Raised cond.plan ns) := by
    refine Connection.meets_insert hc.driven
      (fun _ => Tables.insertQuiz_refuses _ _ _ (.of_fits (Moment.fits_toMillis hnow))) ?_
    intro t id t' ht h
    obtain ⟨_, _, _, _, _, _, _, hfit, _⟩ := Tables.insertQuiz_eq_ok.mp h
    exact ⟨hfit, ht.insertQuiz hnow h⟩
  have hupdate {v : Quiz} (hid : Fitting ns v.id) : (Connection.write cond.plan (.update .quizzes)
      (Tables.updateQuiz v.id v.title v.slug v.description)).Meets Connection.SeesSound
      (fun _ => Connection.SeesSound) (Raised cond.plan ns) :=
    Connection.meets_write hc.driven (fun _ => Tables.updateQuiz_refuses _ _ _ hid)
      fun ht h => ht.updateQuiz h
  refine meets_of ?_ ?_
  · rintro ⟨v, c⟩ ⟨⟩ y ⟨hv, hs⟩ h
    unfold writeQuiz at h
    split at h
    · obtain ⟨now, id, c₁, hnow, rfl, hi⟩ := insertQuiz_ok h
      obtain ⟨_, _, _, _, _, _, _, hfit, _⟩ := Tables.insertQuiz_eq_ok.mp hi
      exact ⟨Quiz.allFitting_iff.mpr ⟨.of_fits hfit, (Quiz.allFitting_iff.mp hv).2⟩,
        Tables.Sound.insertQuiz hnow hs hi⟩
    · obtain ⟨n, c₁, -, rfl, hu⟩ := overwriteQuiz_eq_ok.mp h
      exact ⟨hv, (hupdate (Quiz.allFitting_iff.mp hv).1).ok hs hu⟩
  · intro x e y hx h
    cases writeQuiz_eq_error.mp h with
    | dating _ undated =>
      obtain ⟨now, hnow⟩ := hc.dated
      cases undated.symm.trans hnow
    | inserting _ dated insert => exact .of_raised ((hinsert dated).error hx.2 insert) _
    | updating _ update =>
      exact .of_raised ((hupdate (Quiz.allFitting_iff.mp hx.1).1).error hx.2 update) _
    | missing => exact reported_missed _ _

theorem meets_reconcileQuestions (hplan : cond.plan.Driven) : (reconcileQuestions cond).Meets
    (Both (Quiz.AllFitting ns) Connection.SeesSound)
    (fun _ => Both (Quiz.AllFitting ns) Connection.SeesSound) (Reported cond.plan ns) := by
  rintro ⟨v, c⟩ ⟨hv, hc⟩
  obtain ⟨hid, hquestions⟩ := Quiz.allFitting_iff.mp hv
  have hr := (Question.meets_reconciler hplan).reconcile hid (v.questions, c) ⟨hquestions, hc⟩
  dsimp only [reconcileQuestions]
  rcases h : (Question.reconciler cond.plan).reconcile v.id (v.questions, c) with ⟨e | ids, qs, c'⟩ <;>
    rw [h] at hr
  · exact hr
  · exact ⟨Quiz.allFitting_iff.mpr ⟨hid, hr.1⟩, hr.2⟩

theorem meets_upsertQuiz (hc : Orderly cond) : (upsertQuiz cond).Meets
    (Both (Quiz.AllFitting ns) Connection.SeesSound)
    (fun _ => Both (Quiz.AllFitting ns) Connection.SeesSound) (Reported cond.plan ns) := by
  rw [upsertQuiz_eq]
  exact (meets_writeQuiz hc).bind fun _ =>
    (meets_reconcileQuestions hc.driven).inContext fun _ m h => h.under m

end Store

end TriviaStore
