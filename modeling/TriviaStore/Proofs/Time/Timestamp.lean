import TriviaStore.Ids
import TriviaStore.Proofs.Time.Calendar
import TriviaStore.Time.Timestamp

/-! # Moments of instants

The moment of an instant means that instant, and an instant has a moment if it lies within the
calendar. What the clock shows is cut to whole milliseconds, so that what the store keeps of it reads
back as the same instant.
-/

namespace TriviaStore.Moment

/-- The instant lies between the years 1 and 9999. -/
def InCalendar (i : Instant) : Prop :=
  0 ≤ i.micros + (epochDays * dayMicros : Nat) ∧
    i.micros + (epochDays * dayMicros : Nat) < (calendarDays * dayMicros : Nat)

theorem ofInstant?_isSome {i : Instant} : (ofInstant? i).isSome ↔ InCalendar i := by
  unfold ofInstant? InCalendar
  dsimp only
  split <;> simp_all

theorem toInstant_ofInstant? {i : Instant} {m : Moment} (h : ofInstant? i = some m) :
    m.toInstant = i := by
  unfold ofInstant? at h
  dsimp only at h
  split at h
  · cases h
    simp only [toInstant, timeOfDay, Date.toDays_ofDays, epochDays, dayMicros, Option.getD_some,
      Offset.micros_zero] at *
    congr 1
    omega
  · cases h

/-- Cutting to whole milliseconds goes into the past. -/
theorem toInstant_truncate {i : Instant} {m : Moment} (h : ofInstant? i = some m) :
    m.truncate.toInstant = .ofMillis i.toMillis := by
  have hm := congrArg Instant.micros (toInstant_ofInstant? h)
  have ho : m.offset = some 0 := by
    unfold ofInstant? at h
    dsimp only at h
    split at h <;> cases h
    rfl
  simp only [toInstant, timeOfDay, truncate, Instant.ofMillis, Instant.toMillis, ho, epochDays,
    dayMicros, Option.getD_some, Offset.micros_zero] at *
  congr 1
  omega

theorem now?_eq_some {clock : Instant} {now : Moment} (h : now? clock = some now) :
    InCalendar clock ∧ now.toInstant = .ofMillis clock.toMillis := by
  obtain ⟨m, hm, rfl⟩ := Option.map_eq_some_iff.mp h
  exact ⟨ofInstant?_isSome.mp (Option.isSome_of_eq_some hm), toInstant_truncate hm⟩

/-- A clock within the calendar shows something. -/
theorem exists_now? {clock : Instant} (h : InCalendar clock) : ∃ now, now? clock = some now := by
  obtain ⟨m, hm⟩ := Option.isSome_iff_exists.mp (ofInstant?_isSome.mpr h)
  exact ⟨m.truncate, by rw [now?, hm, Option.map_some]⟩

/-- What is stored of the time that the clock shows. -/
theorem toMillis_now? {clock : Instant} {now : Moment} (h : now? clock = some now) :
    now.toMillis = clock.toMillis := by
  rw [toMillis, (now?_eq_some h).2]
  simp only [Instant.ofMillis, Instant.toMillis]
  omega

/-- What the clock shows fits into 64 bits. -/
theorem fits_toMillis {clock : Instant} {now : Moment} (h : now? clock = some now) :
    fits now.toMillis = true := by
  obtain ⟨hc, -⟩ := now?_eq_some h
  rw [toMillis_now? h]
  simp only [InCalendar, epochDays, dayMicros, calendarDays] at hc
  simp only [fits, Instant.toMillis, Bool.and_eq_true]
  exact ⟨decide_eq_true (by omega), decide_eq_true (by omega)⟩

/-- What the clock shows is stored and read back as the same instant. -/
theorem ofMillis?_toMillis {clock : Instant} {now : Moment} (h : now? clock = some now) :
    ∃ m, ofMillis? now.toMillis = some m ∧ m.toInstant = now.toInstant := by
  obtain ⟨hc, hn⟩ := now?_eq_some h
  have hms : Instant.ofMillis now.toMillis = now.toInstant := by
    rw [toMillis, hn]
    simp only [Instant.ofMillis, Instant.toMillis]
    congr 1
    omega
  have hin : InCalendar now.toInstant := by
    rw [hn]
    simp only [InCalendar, Instant.ofMillis, Instant.toMillis, epochDays, dayMicros, calendarDays]
      at *
    omega
  obtain ⟨m, hm⟩ := Option.isSome_iff_exists.mp (ofInstant?_isSome.mpr hin)
  exact ⟨m, by rw [ofMillis?, hms, hm], toInstant_ofInstant? hm⟩

end TriviaStore.Moment
