import TriviaStore.Proofs.Time.Decoding
import Mathlib.Order.Bounds.Defs

/-! # Truncation

The instant of a moment is the one at which a clock shows it that is as far ahead of UTC as the moment
says. What is kept of the moment is this instant in whole milliseconds, rounded into the past, wherever
the clock stands, and what is read again is the last whole millisecond that does not come after it. The
store's own clock cuts the microseconds that it shows instead, which comes to the same.
-/

namespace TriviaStore

/-! ## Whole milliseconds -/

namespace Instant

variable {i j : Instant}

theorem isGreatest_toMillis (i : Instant) :
    IsGreatest {ms : Int | (ofMillis ms).micros ≤ i.micros} i.toMillis := by
  constructor
  · show i.micros / 1000 * 1000 ≤ i.micros
    omega
  · intro ms h
    have hle : ms * 1000 ≤ i.micros := h
    show ms ≤ i.micros / 1000
    omega

theorem isGreatest_ofMillis (i : Instant) :
    IsGreatest {n : Int | 1000 ∣ n ∧ n ≤ i.micros} (ofMillis i.toMillis).micros := by
  obtain ⟨hle, hgreatest⟩ := isGreatest_toMillis i
  refine ⟨⟨⟨i.toMillis, Int.mul_comm _ _⟩, hle⟩, ?_⟩
  rintro n ⟨⟨ms, rfl⟩, hn⟩
  have hms : (ofMillis ms).micros ≤ i.micros := (Int.mul_comm ms 1000).trans_le hn
  rw [Int.mul_comm]
  exact Int.mul_le_mul_of_nonneg_right (hgreatest hms) (by decide)

theorem toMillis_le_toMillis (h : i.micros ≤ j.micros) : i.toMillis ≤ j.toMillis :=
  Int.ediv_le_ediv (by decide) h

end Instant

namespace Moment

variable {m n : Moment} {i j : Instant}

/-! ## The instant of a moment -/

/-- The instant at which the moment is shown by a clock that is as far ahead of UTC as it says. -/
def ShownAt (m : Moment) (i : Instant) : Prop :=
  ofInstant? ⟨i.micros + (m.offset.getD 0).micros⟩ = some { m with offset := some 0 }

instance (m : Moment) (i : Instant) : Decidable (m.ShownAt i) := inferInstanceAs (Decidable (_ = _))

/-- Clocks with one offset show different moments at different instants. -/
theorem Valid.eq_of_toInstant (hm : m.Valid) (hn : n.Valid) (ho : m.offset = n.offset)
    (h : m.toInstant = n.toInstant) : m = n := by
  have hmicros : m.toInstant.micros = n.toInstant.micros := by rw [h]
  rcases lt_trichotomy m.fields n.fields with hlt | heq | hgt
  · exact absurd hmicros (Int.ne_of_lt (hm.micros_lt_micros hn ho hlt))
  · exact eq_of_fields ho heq
  · exact absurd hmicros.symm (Int.ne_of_lt (hn.micros_lt_micros hm ho.symm hgt))

theorem Valid.toDays_lt_calendarDays (h : m.Valid) : m.date.toDays < calendarDays :=
  calc m.date.toDays < daysBeforeYear (m.date.year + 1) := h.1.toDays_lt
    _ ≤ daysBeforeYear (lastYear + 1) := daysBeforeYear_mono (Nat.succ_le_succ h.2.1)
    _ = calendarDays := daysBeforeYear_end

theorem Valid.inCalendar (h : m.Valid) (ho : m.offset = some 0) : InCalendar m.toInstant := by
  have hdays := h.toDays_lt_calendarDays
  have htime := h.timeOfDay_lt
  simp only [InCalendar, toInstant, ho, Option.getD_some, Offset.micros_zero, epochDays, calendarDays,
    dayMicros] at *
  omega

/-- A clock in UTC shows every moment of the calendar at the moment's instant. -/
theorem Valid.ofInstant?_toInstant (h : m.Valid) (ho : m.offset = some 0) :
    ofInstant? m.toInstant = some m := by
  obtain ⟨n, hn⟩ := Option.isSome_iff_exists.mp (ofInstant?_isSome.mpr (h.inCalendar ho))
  rw [hn, (valid_ofInstant? hn).eq_of_toInstant h ((offset_ofInstant? hn).trans ho.symm)
    (toInstant_ofInstant? hn)]

theorem Valid.utc (h : m.Valid) : { m with offset := some 0 }.Valid := by
  obtain ⟨hdate, hyear, hhour, hminute, hsecond, hmicro, -⟩ := h
  exact ⟨hdate, hyear, hhour, hminute, hsecond, hmicro, by simp [dayMicros]⟩

theorem toInstant_utc (m : Moment) :
    { m with offset := some 0 }.toInstant = ⟨m.toInstant.micros + (m.offset.getD 0).micros⟩ := by
  simp only [toInstant, timeOfDay, Option.getD_some, Offset.micros_zero, Instant.mk.injEq]
  omega

theorem ShownAt.toInstant_eq (h : m.ShownAt i) : m.toInstant = i := by
  have hutc : m.toInstant.micros + (m.offset.getD 0).micros = i.micros + (m.offset.getD 0).micros :=
    congrArg Instant.micros ((toInstant_utc m).symm.trans (toInstant_ofInstant? h))
  have hmicros : m.toInstant.micros = i.micros := by omega
  exact congrArg Instant.mk hmicros

theorem Valid.shownAt_iff (h : m.Valid) : m.ShownAt i ↔ i = m.toInstant := by
  constructor
  · intro hi
    exact hi.toInstant_eq.symm
  · rintro rfl
    rw [ShownAt, ← toInstant_utc]
    exact h.utc.ofInstant?_toInstant rfl

/-- What is kept follows the instants, wherever the clocks stand that show them. -/
theorem ShownAt.toMillis_le_toMillis (hm : m.ShownAt i) (hn : n.ShownAt j) (h : i.micros ≤ j.micros) :
    m.toMillis ≤ n.toMillis := by
  rw [toMillis, toMillis, hm.toInstant_eq, hn.toInstant_eq]
  exact Instant.toMillis_le_toMillis h

/-! ## Reading back -/

theorem Valid.truncate (h : m.Valid) : m.truncate.Valid := by
  obtain ⟨hdate, hyear, hhour, hminute, hsecond, hmicro, hoffset⟩ := h
  refine ⟨hdate, hyear, hhour, hminute, hsecond, ?_, hoffset⟩
  show m.microsecond / 1000 * 1000 < 1000000
  omega

/-- What is read of a moment of the UTC clock is the moment with its microseconds cut. -/
theorem ofMillis?_of_ofInstant? (h : ofInstant? i = some m) : ofMillis? i.toMillis = some m.truncate := by
  have hoffset : m.offset = some 0 := offset_ofInstant? h
  rw [ofMillis?, ← toInstant_truncate h]
  exact (valid_ofInstant? h).truncate.ofInstant?_toInstant hoffset

/-- What is read of an instant of the calendar is shown at the last whole millisecond up to it. -/
theorem exists_ofMillis?_toMillis (h : InCalendar i) :
    ∃ r, ofMillis? i.toMillis = some r ∧ r.ShownAt (.ofMillis i.toMillis) := by
  obtain ⟨s, hs⟩ := Option.isSome_iff_exists.mp (ofInstant?_isSome.mpr h)
  refine ⟨s.truncate, ofMillis?_of_ofInstant? hs, ?_⟩
  exact (valid_ofInstant? hs).truncate.shownAt_iff.mpr (toInstant_truncate hs).symm

/-- What the store's clock shows is what is read again when the UTC clock's moment is kept. -/
theorem now?_eq_ofMillis? (h : ofInstant? i = some m) : now? i = ofMillis? m.toMillis := by
  rw [toMillis, toInstant_ofInstant? h, ofMillis?_of_ofInstant? h, now?, h, Option.map_some]

/-- What is kept of the moment that is shown at an instant. -/
structure KeptOf (i : Instant) (m : Moment) : Prop where
  shown : ∀ j, m.ShownAt j ↔ j = i
  /-- The instant is kept in whole milliseconds, rounded into the past. -/
  truncated : IsGreatest {ms : Int | (Instant.ofMillis ms).micros ≤ i.micros} m.toMillis
  /-- What is read again, of an instant of the calendar, is the last whole millisecond up to it. -/
  readBack : InCalendar i → ∃ r j, ofMillis? m.toMillis = some r ∧ r.ShownAt j ∧
    IsGreatest {n : Int | 1000 ∣ n ∧ n ≤ i.micros} j.micros

theorem Valid.keptOf (h : m.Valid) : m.KeptOf m.toInstant where
  shown _ := h.shownAt_iff
  truncated := m.toInstant.isGreatest_toMillis
  readBack hc := by
    obtain ⟨r, hr, hshown⟩ := exists_ofMillis?_toMillis hc
    exact ⟨r, _, hr, hshown, m.toInstant.isGreatest_ofMillis⟩

end Moment

end TriviaStore
