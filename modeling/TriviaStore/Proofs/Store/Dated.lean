import TriviaStore.Proofs.Store.Operation
import TriviaStore.Proofs.Store.Reading
import TriviaStore.Proofs.Store.Success
import TriviaStore.Proofs.Store.Views
import TriviaStore.Proofs.Time.Truncation

/-! # Creation times

The row of a quiz that was created says when, to the millisecond, and reading it gives the time that
the creation left in the quiz passed in: the clock's moment, as it is read again when it is kept.
-/

namespace TriviaStore

open Moment

variable {cond : Conditions} {c c' d : Connection} {v v' : Quiz}

theorem QuizRow.record_of_createdAt {r : QuizRow} {ms : Int} {m : Moment} (h : r.createdAt = some ms)
    (hm : ofMillis? ms = some m) :
    r.record = .ok ⟨r.id, some r.title, some r.slug, some r.description, some m.toInstant⟩ := by
  simp only [QuizRow.record, h, hm]

namespace Store

/-- A creation leaves what the clock shows in the quiz, and its milliseconds in the quiz's row. -/
theorem createQuiz_row (hc : c.committed.Sound) (h : createQuiz cond (v, c) = (.ok (), (v', c'))) :
    ∃ now r, now? cond.clock = some now ∧ v'.createdAt = some now.toInstant ∧ c'.committed.Sound ∧
      c'.committed.quizAt v'.id = some r ∧ r.createdAt = some now.toMillis := by
  obtain ⟨now, c₁, c₂, ids, hnow, hi, hr, hv, hc'⟩ := createQuiz_ok h
  obtain ⟨_, title, slug, _, _, _, _, _, ht₁⟩ := Tables.insertQuiz_eq_ok.mp hi
  obtain ⟨hs₂, hquizzes⟩ :=
    ((Question.view cond.plan c₁.working).reconcile ⟨hc.insertQuiz hnow hi, rfl⟩ hr).inv
  have hmem : ⟨v'.id, title, slug, v.description.getD "", some now.toMillis⟩ ∈ c₂.working.quizzes := by
    rw [hquizzes, ht₁]
    exact List.mem_append_right _ List.mem_cons_self
  rw [hc']
  exact ⟨now, _, hnow, by rw [hv], hs₂, hs₂.quizzes.rowAt_eq_some.mpr ⟨hmem, rfl⟩, rfl⟩

theorem getQuiz_createdAt (hc : c.committed.Sound) (h : createQuiz cond (v, c) = (.ok (), (v', c')))
    (hd : d.committed = c'.committed) :
    ∃ w, (getQuiz .quiet v'.id d).1 = .ok w ∧ w.createdAt = v'.createdAt := by
  obtain ⟨now, r, hnow, hv, hs, hr, hr₁⟩ := createQuiz_row hc h
  obtain ⟨m, hm, hmi⟩ := ofMillis?_toMillis hnow
  rw [← hd] at hs hr
  have hid : r.id = v'.id := key_of_rowAt hr
  have hget := getQuiz_of_row hs hr (QuizRow.record_of_createdAt hr₁ hm) hid
  exact ⟨_, hget, by rw [hv, ← hmi]; rfl⟩

/-- Moments are kept as their instants in whole milliseconds, rounded into the past, whatever clock
shows them; the clock of the store cuts its moments to what is read again of them, and the time that it
gives a quiz at its creation is read from the quiz's row. -/
theorem keepsTime :
    (∀ m : Moment, m.Valid → ∃ i, m.KeptOf i) ∧
    (∀ (m n : Moment) (i : Instant), m.ShownAt i → n.ShownAt i → m.toMillis = n.toMillis) ∧
    (∀ (m n : Moment) (i j : Instant), m.ShownAt i → n.ShownAt j → i.micros ≤ j.micros →
      m.toMillis ≤ n.toMillis) ∧
    (∀ clock, InCalendar clock → ∃ shown now, ofInstant? clock = some shown ∧
      now? clock = some now ∧ ofMillis? shown.toMillis = some now) ∧
    ∀ (cond : Conditions) (v v' : Quiz) (c c' d : Connection), Reachable c.committed →
      createQuiz cond (v, c) = (.ok (), (v', c')) → d.committed = c'.committed →
      ∃ now w, now? cond.clock = some now ∧ v'.createdAt = some now.toInstant ∧
        (getQuiz .quiet v'.id d).1 = .ok w ∧ w.createdAt = v'.createdAt := by
  refine ⟨fun m h => ⟨_, h.keptOf⟩, fun m n i hm hn => ?_, fun m n i j hm hn h => ?_,
    fun clock h => ?_, fun cond v v' c c' d hc h hd => ?_⟩
  · have hle := hm.toMillis_le_toMillis hn (Int.le_refl _)
    have hge := hn.toMillis_le_toMillis hm (Int.le_refl _)
    exact Int.le_antisymm hle hge
  · exact hm.toMillis_le_toMillis hn h
  · obtain ⟨shown, hshown⟩ := Option.isSome_iff_exists.mp (ofInstant?_isSome.mpr h)
    obtain ⟨now, hnow⟩ := exists_now? h
    exact ⟨shown, now, hshown, hnow, (now?_eq_ofMillis? hshown).symm.trans hnow⟩
  · obtain ⟨now, _, hnow, hv, _⟩ := createQuiz_row hc.sound h
    obtain ⟨w, hw, hcreated⟩ := getQuiz_createdAt hc.sound h hd
    exact ⟨now, w, hnow, hv, hw, hcreated⟩

/-- The last microsecond before the Unix epoch, without an offset and on a clock an hour ahead, the
epoch itself, and a quiz created at the former. -/
theorem keepsTime_eve :
    let eve : Moment := ⟨⟨1969, 12, 31⟩, 23, 59, 59, 999999, none⟩
    let ahead : Moment := ⟨⟨1970, 1, 1⟩, 0, 59, 59, 999999, some (.ofSeconds 3600)⟩
    let epoch : Moment := ⟨⟨1970, 1, 1⟩, 0, 0, 0, 0, none⟩
    let (v, c) := (createQuiz ⟨⟨-1⟩, .quiet⟩ (.revised, .onto .demo)).2
    eve.Valid ∧ eve.KeptOf ⟨-1⟩ ∧ ahead.ShownAt ⟨-1⟩ ∧ eve.toMillis = -1 ∧ eve.toMillis = ahead.toMillis ∧
      eve.toMillis ≤ epoch.toMillis ∧
      (∃ shown now, ofInstant? ⟨-1⟩ = some shown ∧ now? ⟨-1⟩ = some now ∧
        ofMillis? shown.toMillis = some now) ∧
      ∃ w, (getQuiz .quiet v.id (.onto c.committed)).1 = .ok w ∧ w.createdAt = v.createdAt := by
  intro eve ahead epoch
  obtain ⟨hkept, hsame, hmono, hclock, hcreated⟩ := keepsTime
  have hvalid : eve.Valid := by decide
  have heve : eve.ShownAt ⟨-1⟩ := by decide
  have hahead : ahead.ShownAt ⟨-1⟩ := by decide
  have hepoch : epoch.ShownAt ⟨0⟩ := by decide
  obtain ⟨i, hi⟩ := hkept eve hvalid
  obtain rfl := (hi.shown _).mp heve
  have hcreate : (createQuiz ⟨⟨-1⟩, .quiet⟩ (.revised, .onto .demo)).1 = .ok () := by decide +kernel
  obtain ⟨_, w, -, -, hw, hdate⟩ := hcreated ⟨⟨-1⟩, .quiet⟩ .revised _ (.onto .demo) _ (.onto _)
    reachable_demo (Prod.ext hcreate rfl) rfl
  exact ⟨hvalid, hi, hahead, by decide, hsame _ _ _ heve hahead, hmono _ _ _ _ heve hepoch (by decide),
    hclock ⟨-1⟩ (ofInstant?_isSome.mp rfl), w, hw, hdate⟩

end Store

end TriviaStore
