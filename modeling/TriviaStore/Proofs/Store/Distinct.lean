import TriviaStore.Proofs.Store.Append
import TriviaStore.Proofs.Store.Ownership
import TriviaStore.Proofs.Store.Update

/-! # Rows of their own

Two siblings are stored in one row only if the later one was passed in with the id of the earlier:
the id of a new child is above those of all children before it. An update in which no child was
passed in with the id of an earlier sibling therefore stores every child in a row of its own.
-/

namespace TriviaStore

variable {σ C Row : Type} {id : C → Int} {row? : C → Option Row} {cs cs' : List C}

/-- Two children end up with one id only if the later one was passed in with it. -/
def SharedIfGiven (id : C → Int) (cs cs' : List C) : Prop :=
  (cs.zip cs').Pairwise fun a b => id b.2 = id a.2 → id b.1 ≠ 0 ∧ id b.1 = id a.2

/-- No child was passed in with the id that an earlier sibling ends up with. -/
def Apart (id : C → Int) (cs cs' : List C) : Prop :=
  (cs.zip cs').Pairwise fun a b => id b.1 ≠ 0 → id b.1 ≠ id a.2

instance : Decidable (Apart id cs cs') := inferInstanceAs (Decidable (List.Pairwise _ _))

/-- The children have different ids, and there is one row for each of them. -/
structure OneRowEach (id : C → Int) (row? : C → Option Row) (cs cs' : List C)
    (rows : List Row) : Prop where
  distinct : (cs'.map id).Nodup
  perm : (rows.map some).Perm (cs'.map row?)
  count : rows.length = cs.length

theorem OneRowEach.of_perm {rows : List Row} (hn : (cs'.map id).Nodup)
    (hp : (rows.map some).Perm (cs'.map row?)) (hl : cs'.length = cs.length) :
    OneRowEach id row? cs cs' rows := by
  have hlen := hp.length_eq
  rw [List.length_map, List.length_map] at hlen
  exact ⟨hn, hp, hlen.trans hl⟩

theorem SharedIfGiven.nodup (h : SharedIfGiven id cs cs') (hl : cs'.length = cs.length)
    (ha : Apart id cs cs') : (cs'.map id).Nodup := by
  have hne : (cs.zip cs').Pairwise fun a b => id a.2 ≠ id b.2 := by
    apply (List.Pairwise.and h ha).imp
    rintro a b ⟨hshared, hapart⟩ he
    obtain ⟨h₀, hid⟩ := hshared he.symm
    exact hapart h₀ hid
  have hzip : cs' = (cs.zip cs').map Prod.snd := (List.map_snd_zip (Nat.le_of_eq hl)).symm
  rw [List.Nodup, List.pairwise_map, hzip, List.pairwise_map]
  exact hne

theorem lastWith_of_nodup (hn : (cs.map id).Nodup) {c : C} (hc : c ∈ cs) :
    lastWith id (id c) cs = some c := by
  induction cs with
  | nil => cases hc
  | cons d cs ih =>
    obtain ⟨hd, hn⟩ := List.pairwise_cons.mp hn
    rw [lastWith]
    rcases List.mem_cons.mp hc with rfl | hc
    · have hnone : lastWith id (id c) cs = none :=
        lastWith_eq_none.mpr fun d hd' => (hd _ (List.mem_map_of_mem hd')).symm
      rw [hnone, Option.none_or, if_pos rfl]
    · rw [ih hn hc, Option.some_or]

/-- Rows that are found under different ids are the rows of the children carrying them. -/
theorem perm_of_lastWith {key : Row → Int} {P : Row → Bool} {l : List Row} (hl : Ascending key l)
    (hn : (cs.map id).Nodup) (hrow : ∀ c ∈ cs, ∃ r, row? c = some r ∧ key r = id c)
    (hat : ∀ i, (rowAt key l i).filter P = (lastWith id i cs).bind row?) :
    ((l.filter P).map some).Perm (cs.map row?) := by
  have hrows : ((l.filter P).map some).Nodup := by
    rw [List.Nodup, List.pairwise_map]
    apply (hl.filter P).imp
    intro a b hlt he
    cases he
    exact Int.lt_irrefl _ hlt
  have hchildren : (cs.map row?).Nodup := by
    rw [List.Nodup, List.pairwise_map]
    apply (List.pairwise_map.mp hn).imp_of_mem
    intro c d hc hd hne he
    obtain ⟨r, hr, hk⟩ := hrow c hc
    obtain ⟨s, hs, hk'⟩ := hrow d hd
    rw [hr, hs] at he
    cases he
    exact hne (hk.symm.trans hk')
  apply (List.perm_ext_iff_of_nodup hrows hchildren).mpr
  intro r?
  rw [List.mem_map, List.mem_map]
  constructor
  · rintro ⟨r, hr, rfl⟩
    obtain ⟨hr, hp⟩ := List.mem_filter.mp hr
    have hf : (rowAt key l (key r)).filter P = some r := by
      rw [hl.rowAt_of_mem hr, Option.filter_some, if_pos hp]
    rw [hat] at hf
    obtain ⟨c, hc, hr⟩ := Option.bind_eq_some_iff.mp hf
    exact ⟨c, (mem_of_lastWith hc).1, hr⟩
  · rintro ⟨c, hc, rfl⟩
    obtain ⟨r, hr, _⟩ := hrow c hc
    have hf := hat (id c)
    rw [lastWith_of_nodup hn hc, Option.bind_some, hr] at hf
    obtain ⟨hat, hp⟩ := Option.filter_eq_some_iff.mp hf
    exact ⟨r, List.mem_filter.mpr ⟨mem_of_rowAt hat, hp⟩, hr.symm⟩

theorem Reconciler.View.Reconciled.sharedIfGiven {t : Reconciler σ C} {v : t.View Row} {p : Int}
    {s s' : σ} (h : v.Reconciled p cs s cs' s') : SharedIfGiven t.id cs cs' := by
  apply h.above.imp_of_mem
  intro a b _ hb habove he
  have h₀ : t.id b.1 ≠ 0 := by
    intro h₀
    have hlt := habove h₀
    omega
  obtain ⟨k, hk⟩ := List.mem_iff_getElem?.mp hb
  obtain ⟨hk, hk'⟩ := List.getElem?_zip_eq_some.mp hk
  exact ⟨h₀, (h.kept k _ _ hk hk' h₀).symm.trans he⟩

/-! ## Updated quizzes -/

variable {cond : Conditions} {plan : Plan Statement} {c c' : Connection} {v v' : Quiz} {p : Int}

/-- Which children of a quiz have been stored in rows of their own. -/
structure Quiz.Separated (v v' : Quiz) (t' : Tables) : Prop where
  questions : SharedIfGiven (·.id) v.questions v'.questions
  choices : ∀ (k : Nat) q q', v.questions[k]? = some q → v'.questions[k]? = some q' →
    SharedIfGiven (·.id) q.desired q'.choices
  question_rows : Apart (·.id) v.questions v'.questions →
    OneRowEach (·.id) Question.row? v.questions v'.questions
      (t'.questions.filter (·.quizId == v.id))
  /-- A question is not overwritten if it is the last with its id. -/
  choice_rows : ∀ (k : Nat) q q', v.questions[k]? = some q → v'.questions[k]? = some q' →
    lastWith (·.id) q'.id v'.questions = some q' → Apart (·.id) q.desired q'.choices →
    OneRowEach (·.id) Choice.row? q.choices q'.choices
      (t'.choices.filter (·.questionId == q'.id))

theorem Question.Reconciled.oneRowEach {T : Tables} {qs qs' : List Question}
    (h : Question.Reconciled plan T p qs c qs' c') (ha : Apart (·.id) qs qs') :
    OneRowEach (·.id) Question.row? qs qs' (c'.working.questions.filter (·.quizId == p)) := by
  have hn : (qs'.map (·.id)).Nodup := SharedIfGiven.nodup h.sharedIfGiven h.length ha
  have hrow : ∀ q ∈ qs', ∃ r, q.row? = some r ∧ r.id = q.id := by
    intro q hq
    obtain ⟨r, hr, _⟩ := h.row_of_mem hq
    refine ⟨r, hr, ?_⟩
    obtain ⟨_, _, rfl⟩ := Option.map_eq_some_iff.mp hr
    rfl
  exact .of_perm hn (perm_of_lastWith h.inv.1.questions hn hrow h.questionUnder) h.length

theorem Question.Reconciled.choices_oneRowEach {T : Tables} {qs qs' : List Question}
    (h : Question.Reconciled plan T p qs c qs' c') {q q' : Question}
    (hlast : lastWith (·.id) q'.id qs' = some q') (hrow : ∀ x ∈ q'.choices, x.row?.isSome)
    (hn : (q'.choices.map (·.id)).Nodup) (hl : q'.choices.length = q.choices.length) :
    OneRowEach (·.id) Choice.row? q.choices q'.choices
      (c'.working.choices.filter (·.questionId == q'.id)) := by
  have hrow : ∀ x ∈ q'.choices, ∃ r, x.row? = some r ∧ r.id = x.id := by
    intro x hx
    obtain ⟨r, hr⟩ := Option.isSome_iff_exists.mp (hrow x hx)
    refine ⟨r, hr, ?_⟩
    obtain ⟨_, _, _, _, rfl⟩ := Choice.row?_eq_some hr
    rfl
  exact .of_perm hn (perm_of_lastWith h.inv.1.choices hn hrow (h.choiceUnder hlast)) hl

theorem Store.updateQuiz_separates (ht : Reachable c.committed)
    (h : Store.updateQuiz cond (v, c) = (.ok (), (v', c'))) : v.Separated v' c'.committed := by
  have hc := ht.sound
  obtain ⟨_, n, c₁, c₂, ids, hn, hu, hr, _, hc'⟩ := Store.updateQuiz_ok h
  have hc₁ := hc.updateQuiz hu
  have hrec : Question.Reconciled cond.plan c₁.working v.id v.questions c₁ v'.questions c₂ :=
    (Question.view cond.plan c₁.working).reconcile ⟨hc₁, rfl⟩ hr
  rw [hc']
  constructor
  · exact hrec.sharedIfGiven
  · intro k q q' hq hq'
    obtain ⟨_, _, _, hp⟩ := Question.placement_of_reconcile hc₁ hr hq hq'
    exact hp.below.sharedIfGiven
  · exact hrec.oneRowEach
  · intro k q q' hq hq' hlast ha
    obtain ⟨_, _, _, hp⟩ := Question.placement_of_reconcile hc₁ hr hq hq'
    have hlen : q'.choices.length = q.desired.length := hp.below.length
    have hn : (q'.choices.map (·.id)).Nodup :=
      SharedIfGiven.nodup hp.below.sharedIfGiven hlen ha
    exact hrec.choices_oneRowEach hlast hp.filed.choice_row hn (hlen.trans q.length_desired)

/-- The first demo quiz with a new question in front, its second question gone, and the first choice
of its first question behind a new one. -/
def Quiz.mixed : Quiz where
  id := 1
  title := some "Capitals"
  slug := some "capitals"
  description := some ""
  createdAt := none
  questions := [
    .new "Italy?" 5 [.new "Rome" true, .new "Milan" false],
    { Question.new "Germany?" 30 [] with id := 3 },
    { Question.new "France?" 10 [.new "Lyon" false, { Choice.new "Paris" true with id := 1 }] with
      id := 1 }]

theorem Store.updateQuiz_separates_mixed :
    OneRowEach (·.id) Question.row? Quiz.mixed.questions
        (updateQuiz .calm (.mixed, .onto .demo)).2.1.questions
        ((updateQuiz .calm (.mixed, .onto .demo)).2.2.committed.questions.filter (·.quizId == 1)) ∧
      ((updateQuiz .calm (.mixed, .onto .demo)).2.2.committed.choices.filter
        (·.questionId == 1)).length = 2 := by
  have h : (updateQuiz .calm (.mixed, .onto .demo)).1 = .ok () := by decide +kernel
  have hs := updateQuiz_separates (c := .onto .demo) reachable_demo (Prod.ext h rfl)
  have hlast : (updateQuiz .calm (.mixed, .onto .demo)).2.1.questions[2]? =
      some ({ Question.new "France?" 10
        [{ Choice.new "Lyon" false with id := 15, questionId := 1 },
          { Choice.new "Paris" true with id := 1, questionId := 1 }] with
        id := 1, quizId := 1 } : Question) := by
    decide +kernel
  refine ⟨hs.question_rows (by decide +kernel), ?_⟩
  exact (hs.choice_rows 2 _ _ rfl hlast (by decide +kernel) (by decide +kernel)).count

/-- A question that is passed in twice ends up in one row. -/
theorem Store.not_always_distinct : ¬ ∀ (cond : Conditions) (c c' : Connection) (v v' : Quiz),
    Reachable c.committed → updateQuiz cond (v, c) = (.ok (), (v', c')) →
      (v'.questions.map (·.id)).Nodup ∧ ∀ q' ∈ v'.questions, (q'.choices.map (·.id)).Nodup := by
  intro hall
  have h : (updateQuiz .calm (.revised, .onto .demo)).1 = .ok () := by decide +kernel
  have hn := (hall .calm (.onto .demo) _ .revised _ reachable_demo (Prod.ext h rfl)).1
  revert hn
  decide +kernel

end TriviaStore
