import TriviaStore.Proofs.Store.Creatable
import TriviaStore.Proofs.Store.Listing
import TriviaStore.Proofs.Store.Parents
import TriviaStore.Proofs.Store.Run
import Mathlib.Data.List.Nodup

/-! # Seeding again and again

Seeding creates the demonstration quizzes that are missing, each in a transaction of its own, so it
can be stopped anywhere and be done again: what was created stays, what was not is created by the
next run, and a run that finds nothing missing does nothing. Whatever happens on the way, the rows
that were there before stay as they are, and the ids that are left suffice for what is still
missing.
-/

namespace TriviaStore

open Attempt

variable {cond : Conditions} {clock : Instant} {c c' : Connection} {t t' : Tables} {v v' : Quiz}
  {vs ws : List Quiz} {k m n : Nat}

/-! ## Missing quizzes -/

namespace Tables

/-- A stored quiz has the slug of the quiz. -/
def HasSlug (t : Tables) (v : Quiz) : Prop := ∃ r ∈ t.quizzes, v.slug = some r.slug

instance : Decidable (t.HasSlug v) := inferInstanceAs (Decidable (∃ _ ∈ _, _))

/-- The quizzes whose slugs no stored quiz has. -/
def missing (t : Tables) (vs : List Quiz) : List Quiz := vs.filter fun v => ¬ t.HasSlug v

/-- There are ids left for the rows of some quizzes and of everything below them. -/
def HasRoomFor (t : Tables) (vs : List Quiz) : Prop :=
  t.HasRoom vs.length (vs.flatMap (·.questions)).length
    ((vs.flatMap (·.questions)).flatMap (·.choices)).length

instance : Decidable (t.HasRoomFor vs) := inferInstanceAs (Decidable (t.HasRoom _ _ _))

theorem mem_missing : v ∈ t.missing vs ↔ v ∈ vs ∧ ¬ t.HasSlug v := by
  simp [missing]

theorem missing_cons_of_hasSlug (h : t.HasSlug v) : t.missing (v :: vs) = t.missing vs :=
  List.filter_cons_of_neg (by simpa using h)

theorem missing_cons_of_free (h : ¬ t.HasSlug v) : t.missing (v :: vs) = v :: t.missing vs :=
  List.filter_cons_of_pos (by simpa using h)

theorem hasRoomFor_cons : t.HasRoomFor (v :: vs) ↔ t.HasRoom (vs.length + 1)
    (v.questions.length + (vs.flatMap (·.questions)).length)
    ((v.questions.flatMap (·.choices)).length +
      ((vs.flatMap (·.questions)).flatMap (·.choices)).length) := by
  unfold HasRoomFor
  rw [List.length_cons, List.flatMap_cons, List.flatMap_append, List.length_append,
    List.length_append]

theorem HasRoomFor.perm (h : t.HasRoomFor vs) (hp : vs.Perm ws) : t.HasRoomFor ws := by
  have hq := hp.flatMap_right Quiz.questions
  unfold HasRoomFor
  rw [← hp.length_eq, ← hq.length_eq, ← (hq.flatMap_right Question.choices).length_eq]
  exact h

theorem HasSlug.extend (h : t.HasSlug v) (ht : t.ExtendedTo t') : t'.HasSlug v := by
  obtain ⟨r, hr, hs⟩ := h
  exact ⟨r, ht.quizzes.subset hr, hs⟩

end Tables

/-! ## Creating one of them -/

/-- The quiz has been added to the stored ones under its slug, which was free. -/
structure Tables.AddsSlug (t : Tables) (v : Quiz) (t' : Tables) : Prop where
  free : ¬ t.HasSlug v
  hasSlug (w : Quiz) : t'.HasSlug w ↔ t.HasSlug w ∨ w.slug = v.slug

/-- Whatever disturbs it, a creation that succeeds was under a slug that was free. -/
theorem Store.createQuiz_addsSlug (hs : c.committed.Sound)
    (h : Store.createQuiz cond (v, c) = (.ok (), (v', c'))) :
    c.committed.AddsSlug v c'.committed := by
  obtain ⟨now, c₁, c₂, ids, hnow, hi, hr, _, hc'⟩ := Store.createQuiz_ok h
  have hquizzes : c₂.working.quizzes = c₁.working.quizzes :=
    ((Question.view cond.plan c₁.working).reconcile ⟨hs.insertQuiz hnow hi, rfl⟩ hr).inv.2
  obtain ⟨_, title, slug, _, hslug, hfree, _, _, ht⟩ := Tables.insertQuiz_eq_ok.mp hi
  constructor
  · rintro ⟨r, hr, he⟩
    exact hfree r hr (Option.some.inj (he.symm.trans hslug))
  · intro w
    simp only [Tables.HasSlug, hc', hquizzes, ht, List.mem_append, List.mem_singleton, or_and_right,
      exists_or, exists_eq_left, hslug]

/-- And it has used no more ids than it has rows. -/
theorem Store.createQuiz_room (hs : c.committed.Sound)
    (h : Store.createQuiz cond (v, c) = (.ok (), (v', c')))
    (hroom : c.committed.HasRoom (k + 1) (v.questions.length + m)
      ((v.questions.flatMap (·.choices)).length + n)) : c'.committed.HasRoom k m n := by
  have hv := insertable_of_createQuiz hs h
  obtain ⟨now, c₁, c₂, ids, hnow, hi, hr, _, hc'⟩ := Store.createQuiz_ok h
  have hready := ready_inserted c₁ hs hnow hv.questions hi hroom
  have hend := Question.carries.reconcile hready hr
  have hquizzes := Tables.insertQuiz_room hi hroom.quizzes
  rw [hc']
  exact ⟨by rwa [hend.quizzes], by simpa using hend.questions,
    by simpa [Question.newChoices] using hend.choices⟩

namespace Tables.AddsSlug

variable (h : t.AddsSlug v t')

include h

/-- What is missing then is what was missing before, less the quiz. -/
theorem perm_missing (hd : (vs.map (·.slug)).Nodup) (hv : v ∈ vs) :
    (t.missing vs).Perm (v :: t'.missing vs) := by
  have hvs : vs.Nodup := List.Nodup.of_map _ hd
  have hmissing : v ∉ t'.missing vs :=
    fun hm => (mem_missing.mp hm).2 ((h.hasSlug v).mpr (.inr rfl))
  have hbefore : (t.missing vs).Nodup := hvs.filter _
  have hafter : (v :: t'.missing vs).Nodup := List.nodup_cons.mpr ⟨hmissing, hvs.filter _⟩
  refine (List.perm_ext_iff_of_nodup hbefore hafter).mpr fun w => ?_
  rw [List.mem_cons, mem_missing, mem_missing, h.hasSlug, not_or]
  constructor
  · rintro ⟨hw, hfree⟩
    by_cases he : w.slug = v.slug
    · exact .inl (List.inj_on_of_nodup_map hd hw hv he)
    · exact .inr ⟨hw, hfree, he⟩
  · rintro (rfl | ⟨hw, hfree, _⟩)
    · exact ⟨hv, h.free⟩
    · exact ⟨hw, hfree⟩

/-- Among others nothing has changed. -/
theorem missing_eq (hne : ∀ w ∈ vs, w.slug ≠ v.slug) : t'.missing vs = t.missing vs := by
  refine List.filter_congr fun w hw => ?_
  simp only [h.hasSlug, hne w hw, or_false]

end Tables.AddsSlug

/-! ## Disturbed runs -/

/-- Seeding is interrupted when the second quiz is to be inserted. -/
def Conditions.halfway : Conditions where
  clock := ⟨0⟩
  plan := .nth (· == .insert .quizzes) 2 (.fail (.outside .interrupt ""))

@[irreducible] def Tables.halfway : Tables := Tables.empty.afterAll [⟨.halfway, .seed⟩]

/-- Rows have been added to those of some tables, soundly, and if the ids left sufficed for what was
missing of a list of quizzes, then they still do. -/
structure Tables.Seedable (t : Tables) (vs : List Quiz) (t' : Tables) : Prop where
  former : t.ExtendedTo t'
  sound : t'.Sound
  room : t.HasRoomFor (t.missing vs) → t'.HasRoomFor (t'.missing vs)

namespace Store

/-- Wherever seeding is stopped, it has used no ids but for what is no longer missing. -/
theorem seedable_seed :
    (seed cond).Keeps (Connection.Holds (t.Seedable demoQuizzes) fun _ => True) := by
  refine keeps_seed (fun _ _ => trivial) fun v hv => keeps_creating_of ?_
  intro c c' v' ⟨hformer, hs, hroom⟩ h
  have hslug := createQuiz_addsSlug hs h
  have hperm := hslug.perm_missing (by decide) hv
  exact ⟨hformer.trans (createQuiz_changes hs h).1, createQuiz_sound hs h,
    fun ht => createQuiz_room hs h (Tables.hasRoomFor_cons.mp ((hroom ht).perm hperm))⟩

theorem seedable_afterAll (conds : List Conditions) (h : t.Seedable demoQuizzes t') :
    t.Seedable demoQuizzes (t'.afterAll (conds.map fun cond => ⟨cond, .seed⟩)) := by
  induction conds generalizing t' with
  | nil => exact h
  | cons cond conds ih =>
    have hrun : ((Operation.seed).run cond).Keeps
        (Connection.Holds (t.Seedable demoQuizzes) fun _ => True) :=
      seedable_seed.bind fun _ => keeps_pure ()
    exact ih (hrun (.onto t') ⟨h, trivial⟩).committed

end Store

/-! ## Creating what is missing -/

/-- As far as some quizzes are concerned, whose slugs differ, it is known which slugs are taken. -/
structure Tables.Surveyed (t : Tables) (taken : List (Option String)) (vs : List Quiz) : Prop where
  distinct : (vs.map (·.slug)).Nodup
  taken : ∀ v ∈ vs, v.slug ∈ taken ↔ t.HasSlug v

namespace Tables.Surveyed

variable {taken : List (Option String)} (h : t.Surveyed taken (v :: vs))

include h

theorem tail : t.Surveyed taken vs where
  distinct := (List.nodup_cons.mp h.distinct).2
  taken w hw := h.taken w (List.mem_cons_of_mem _ hw)

theorem others : ∀ w ∈ vs, w.slug ≠ v.slug :=
  fun w hw he => (List.nodup_cons.mp h.distinct).1 (List.mem_map.mpr ⟨w, hw, he⟩)

theorem added (hv : t.AddsSlug v t') : t'.Surveyed taken vs where
  distinct := h.tail.distinct
  taken w hw := by rw [h.tail.taken w hw, hv.hasSlug, or_iff_left (h.others w hw)]

end Tables.Surveyed

namespace Store

/-- What creating the missing ones of some quizzes has done. -/
structure Completed (vs : List Quiz) (c : Connection) (created : List Quiz) (c' : Connection) :
    Prop where
  created : created.map Quiz.authored = (c.committed.missing vs).map Quiz.authored
  former : c.committed.ExtendedTo c'.committed
  sound : c'.committed.Sound
  stored : ∀ v ∈ vs, c'.committed.HasSlug v

theorem creating_eq_ok : creating cond v c = (.ok v', c') ↔
    createQuiz cond (v, c) = (.ok (), (v', c')) := by
  unfold creating
  split <;> simp_all

section Missing

variable {taken : List (Option String)} {created : List Quiz}

theorem createMissing_taken (h : v.slug ∈ taken) : createMissing cond taken (v :: vs) c =
    createMissing cond taken vs (c.note (.demoSkipped v.slug)) := by
  rw [createMissing, if_pos (List.contains_iff_mem.mpr h), bind_of_ok (update_run _ _)]

theorem createMissing_free (h : v.slug ∉ taken) :
    createMissing cond taken (v :: vs) c = (.ok created, c') ↔ ∃ v' c₁ rest,
      createQuiz cond (v, c) = (.ok (), (v', c₁)) ∧
      createMissing cond taken vs c₁ = (.ok rest, c') ∧ created = v' :: rest := by
  have hnot : taken.contains v.slug ≠ true := fun hmem => h (List.contains_iff_mem.mp hmem)
  rw [createMissing, if_neg hnot]
  constructor
  · intro hrun
    obtain ⟨v', c₁, hv, hrun⟩ := bind_eq_ok.mp hrun
    obtain ⟨rest, c₂, hrest, hrun⟩ := bind_eq_ok.mp hrun
    cases hrun
    exact ⟨v', c₁, rest, creating_eq_ok.mp hv, hrest, rfl⟩
  · rintro ⟨v', c₁, rest, hv, hrest, rfl⟩
    exact bind_eq_ok.mpr ⟨v', c₁, creating_eq_ok.mpr hv, bind_eq_ok.mpr ⟨rest, c', hrest, rfl⟩⟩

/-- Whatever disturbs it, a run through the quizzes that succeeds has created what was missing. -/
theorem createMissing_completes (hs : c.committed.Sound) (htaken : c.committed.Surveyed taken vs)
    (h : createMissing cond taken vs c = (.ok created, c')) : Completed vs c created c' := by
  induction vs generalizing c created with
  | nil =>
    cases h
    exact ⟨rfl, .refl _, hs, fun _ hv => absurd hv List.not_mem_nil⟩
  | cons v vs ih =>
    by_cases hv : c.committed.HasSlug v
    · rw [createMissing_taken ((htaken.taken v List.mem_cons_self).mpr hv)] at h
      have hdone := ih (c := c.note (.demoSkipped v.slug)) hs htaken.tail h
      refine
        { hdone with
          created := (Tables.missing_cons_of_hasSlug hv).symm ▸ hdone.created, stored := ?_ }
      exact List.forall_mem_cons.mpr ⟨hv.extend hdone.former, hdone.stored⟩
    · have hfree : v.slug ∉ taken := fun hmem => hv ((htaken.taken v List.mem_cons_self).mp hmem)
      obtain ⟨v', c₁, rest, hcreate, hrest, rfl⟩ := (createMissing_free hfree).mp h
      have hadds := createQuiz_addsSlug hs hcreate
      have hdone := ih (createQuiz_sound hs hcreate) (htaken.added hadds) hrest
      have hstored : c₁.committed.HasSlug v := (hadds.hasSlug v).mpr (.inr rfl)
      refine
        { created := ?_, former := (createQuiz_changes hs hcreate).1.trans hdone.former
          sound := hdone.sound
          stored := List.forall_mem_cons.mpr ⟨hstored.extend hdone.former, hdone.stored⟩ }
      rw [Tables.missing_cons_of_free hv, List.map_cons, List.map_cons, fixes_createQuiz.eq hcreate,
        hdone.created, hadds.missing_eq htaken.others]

/-- Undisturbed it succeeds, as long as there are ids left for what is missing. -/
theorem createMissing_ok (hclock : Moment.InCalendar clock) (hs : c.committed.Sound)
    (hvs : ∀ v ∈ vs, v.title.isSome = true ∧ v.slug.isSome = true ∧
      ∀ q ∈ v.questions, q.Insertable)
    (htaken : c.committed.Surveyed taken vs)
    (hroom : c.committed.HasRoomFor (c.committed.missing vs)) :
    ∃ created c', createMissing ⟨clock, .quiet⟩ taken vs c = (.ok created, c') := by
  induction vs generalizing c with
  | nil => exact ⟨[], c, rfl⟩
  | cons v vs ih =>
    obtain ⟨⟨htitle, hslug, hquestions⟩, hvs⟩ := List.forall_mem_cons.mp hvs
    by_cases hv : c.committed.HasSlug v
    · rw [Tables.missing_cons_of_hasSlug hv] at hroom
      rw [createMissing_taken ((htaken.taken v List.mem_cons_self).mpr hv)]
      exact ih hs hvs htaken.tail hroom
    · rw [Tables.missing_cons_of_free hv, Tables.hasRoomFor_cons] at hroom
      obtain ⟨slug, hslug⟩ := Option.isSome_iff_exists.mp hslug
      have hinsertable : v.Insertable c.committed :=
        ⟨htitle, ⟨slug, hslug, fun r hr he => hv ⟨r, hr, by rw [hslug, he]⟩⟩, hquestions⟩
      obtain ⟨⟨v', c₁⟩, hcreate⟩ := createQuiz_of_insertable hs hclock hinsertable
        (hroom.mono (Nat.le_add_left _ _) (Nat.le_add_right _ _) (Nat.le_add_right _ _))
      have hadds := createQuiz_addsSlug hs hcreate
      obtain ⟨rest, c', hrest⟩ := ih (createQuiz_sound hs hcreate) hvs (htaken.added hadds)
        ((hadds.missing_eq htaken.others).symm ▸ createQuiz_room hs hcreate hroom)
      have hfree : v.slug ∉ taken := fun hmem => hv ((htaken.taken v List.mem_cons_self).mp hmem)
      exact ⟨_, _, (createMissing_free hfree).mpr ⟨v', c₁, rest, hcreate, hrest, rfl⟩⟩

/-- Where nothing is missing it does nothing. -/
theorem createMissing_none (h : ∀ v ∈ vs, v.slug ∈ taken) :
    ∃ c', createMissing cond taken vs c = (.ok [], c') ∧ c'.committed = c.committed := by
  induction vs generalizing c with
  | nil => exact ⟨c, rfl, rfl⟩
  | cons v vs ih =>
    obtain ⟨hv, hvs⟩ := List.forall_mem_cons.mp h
    rw [createMissing_taken hv]
    exact ih hvs

end Missing

/-! ## Undisturbed runs -/

/-- Undisturbed, the listing tells which slugs are taken. -/
theorem listQuizzes_surveys (hs : c.committed.Sound) :
    ∃ present c₁, listQuizzes .quiet c = (.ok present, c₁) ∧ c₁.committed = c.committed ∧
      c₁.committed.Surveyed (present.map (·.slug)) demoQuizzes := by
  have hkeeps : (listQuizzes .quiet).Keeps (Connection.Holds (· = c.committed) fun _ => True) :=
    keeps_listQuizzes fun _ _ => trivial
  have hsame := (hkeeps c ⟨rfl, trivial⟩).committed
  refine ⟨_, _, Prod.ext (listQuizzes_ok hs) rfl, hsame, by decide, fun v _ => ?_⟩
  rw [hsame]
  simp [Tables.HasSlug, QuizRow.quiz, QuizRow.told, Quiz.ofRecord, eq_comm]

/-- After the listing, seeding is a run through the demonstration quizzes. -/
theorem seed_eq_ok {present created : List Quiz} {c₁ : Connection}
    (hlist : listQuizzes cond.plan c = (.ok present, c₁)) :
    seed cond c = (.ok created, c') ↔ ∃ c₂,
      createMissing cond (present.map (·.slug)) demoQuizzes c₁ = (.ok created, c₂) ∧
      c' = c₂.note (.seeded created.length) := by
  unfold seed
  rw [bind_of_ok hlist]
  constructor
  · intro h
    obtain ⟨created, c₂, hrun, h⟩ := bind_eq_ok.mp h
    rw [bind_of_ok (update_run _ _)] at h
    cases h
    exact ⟨c₂, hrun, rfl⟩
  · rintro ⟨c₂, hrun, rfl⟩
    rw [bind_of_ok hrun, bind_of_ok (update_run _ _)]
    rfl

theorem seed_completes {created : List Quiz} (hs : c.committed.Sound)
    (h : seed ⟨clock, .quiet⟩ c = (.ok created, c')) : Completed demoQuizzes c created c' := by
  obtain ⟨present, c₁, hlist, hsame, htaken⟩ := listQuizzes_surveys hs
  obtain ⟨c₂, hrun, rfl⟩ := (seed_eq_ok hlist).mp h
  have hdone := createMissing_completes (hsame ▸ hs) htaken hrun
  exact ⟨hsame ▸ hdone.created, hsame ▸ hdone.former, hdone.sound, hdone.stored⟩

theorem seed_ok (hclock : Moment.InCalendar clock) (hs : c.committed.Sound)
    (hroom : c.committed.HasRoomFor (c.committed.missing demoQuizzes)) :
    ∃ created c', seed ⟨clock, .quiet⟩ c = (.ok created, c') := by
  obtain ⟨present, c₁, hlist, hsame, htaken⟩ := listQuizzes_surveys hs
  obtain ⟨created, c₂, hrun⟩ :=
    createMissing_ok hclock (hsame ▸ hs) (by decide) htaken (hsame ▸ hroom)
  exact ⟨created, _, (seed_eq_ok hlist).mpr ⟨c₂, hrun, rfl⟩⟩

/-- A run on a store in which nothing is missing creates nothing. -/
theorem seed_none (hs : c.committed.Sound) (h : ∀ v ∈ demoQuizzes, c.committed.HasSlug v) :
    ∃ c', seed ⟨clock, .quiet⟩ c = (.ok [], c') ∧ c'.committed = c.committed := by
  obtain ⟨present, c₁, hlist, hsame, htaken⟩ := listQuizzes_surveys hs
  obtain ⟨c₂, hrun, hcommitted⟩ : ∃ c₂, createMissing ⟨clock, .quiet⟩ (present.map (·.slug))
      demoQuizzes c₁ = (.ok [], c₂) ∧ c₂.committed = c₁.committed :=
    createMissing_none fun v hv => (htaken.taken v hv).mpr (hsame ▸ h v hv)
  exact ⟨_, (seed_eq_ok hlist).mpr ⟨c₂, hrun, rfl⟩, hcommitted.trans hsame⟩

theorem count_slug (ht : t.Sound) (hv : t.HasSlug v) :
    (t.quizzes.map fun r => some r.slug).count v.slug = 1 := by
  have hnodup : (t.quizzes.map fun r => some r.slug).Nodup :=
    List.pairwise_map.mpr (ht.slugs.imp fun hne he => hne (Option.some.inj he))
  obtain ⟨r, hr, hslug⟩ := hv
  exact List.count_eq_one_of_mem hnodup (List.mem_map.mpr ⟨r, hr, hslug.symm⟩)

/-! ## Runs after runs -/

/-- What the last of several runs has created, and what the rows are then. -/
structure Seeded (t : Tables) (c : Connection) (created : List Quiz) (c' : Connection) : Prop where
  created : created.map Quiz.authored = c.committed.missing demoQuizzes
  once : ∀ v ∈ demoQuizzes, (c'.committed.quizzes.map fun r => some r.slug).count v.slug = 1
  former : t.ExtendedTo c'.committed
  again (clock : Instant) {d : Connection} (hd : d.committed = c'.committed) :
    ∃ d', seed ⟨clock, .quiet⟩ d = (.ok [], d') ∧ d'.committed = d.committed

/-- What is told of an undisturbed run of seeding, at a time, after runs that began with some
tables. -/
structure Seeds (clock : Instant) (t : Tables) (c : Connection) : Prop where
  /-- The demonstration quizzes are small, but their rows do need ids. -/
  succeeds : t.HasRoomFor (t.missing demoQuizzes) →
    ∃ created c', seed ⟨clock, .quiet⟩ c = (.ok created, c')
  seeded {created : List Quiz} {c' : Connection} :
    seed ⟨clock, .quiet⟩ c = (.ok created, c') → Seeded t c created c'

/-- However often and wherever seeding was stopped, a run that is not disturbed completes it. -/
theorem seeds (ht : Reachable t) (hclock : Moment.InCalendar clock) (conds : List Conditions)
    (hc : c.committed = t.afterAll (conds.map fun cond => ⟨cond, .seed⟩)) : Seeds clock t c := by
  have hseedable : t.Seedable demoQuizzes c.committed :=
    hc ▸ seedable_afterAll conds ⟨.refl t, ht.sound, id⟩
  refine ⟨fun hroom => seed_ok hclock hseedable.sound (hseedable.room hroom), fun h => ?_⟩
  have hdone := seed_completes hseedable.sound h
  refine ⟨?_, fun v hv => count_slug hdone.sound (hdone.stored v hv),
    hseedable.former.trans hdone.former,
    fun clock d hd => seed_none (hd ▸ hdone.sound) (hd ▸ hdone.stored)⟩
  have hauthored : ∀ v ∈ demoQuizzes, v.authored = id v := by decide
  have hmissing : ∀ v ∈ c.committed.missing demoQuizzes, v.authored = id v :=
    fun v hv => hauthored v (Tables.mem_missing.mp hv).1
  rw [hdone.created, List.map_congr_left hmissing, List.map_id]

/-- A run that is interrupted between the two quizzes leaves the second to the next. -/
theorem seeds_halfway : ∃ created c', seed .calm (.onto .halfway) = (.ok created, c') ∧
    created.map Quiz.authored = demoQuizzes.drop 1 := by
  have hmissing : Tables.halfway.missing demoQuizzes = demoQuizzes.drop 1 := by decide +kernel
  have hhalfway : Tables.halfway =
      Tables.empty.afterAll ([.halfway].map fun cond => ⟨cond, .seed⟩) := by
    unfold Tables.halfway
    rfl
  have hclock : Moment.InCalendar ⟨0⟩ := ⟨by decide, by decide⟩
  have hs := seeds (c := .onto .halfway) .empty hclock [.halfway] hhalfway
  obtain ⟨created, c', h⟩ := hs.succeeds (by decide +kernel)
  exact ⟨created, c', h, (hs.seeded h).created.trans hmissing⟩

end Store

end TriviaStore
