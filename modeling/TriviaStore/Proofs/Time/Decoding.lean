import TriviaStore.Proofs.Time.Chronology
import TriviaStore.Proofs.Time.Timestamp
import Mathlib.Data.List.Lex

/-! # Stored numbers and their moments

The moments of the calendar are in the order of their instants, and every instant from the first to the
last of them is one. So a stored number is read as the moment it was kept of, to the millisecond, numbers
read as moments in the same order, and only those outside the calendar cannot be read.
-/

namespace TriviaStore.Moment

/-! ## Moments in order -/

/-- The first moment of the calendar. -/
def first : Moment :=
  { date := ⟨1, 1, 1⟩, hour := 0, minute := 0, second := 0, microsecond := 0, offset := some 0 }

/-- The last moment of the calendar. -/
def last : Moment :=
  { date := ⟨lastYear, 12, 31⟩, hour := 23, minute := 59, second := 59, microsecond := 999999
    offset := some 0 }

/-- What the clock shows, from the year down to the microsecond, to be compared in this order. -/
def fields (m : Moment) : List Nat :=
  m.date.fields ++ [m.hour, m.minute, m.second, m.microsecond]

variable {m n : Moment}

theorem fields_lt_fields (h : m.fields < n.fields) : m.date.fields < n.date.fields ∨
    m.date = n.date ∧ [m.hour, m.minute, m.second, m.microsecond] <
      [n.hour, n.minute, n.second, n.microsecond] := by
  obtain ⟨⟨y, mo, d⟩, _⟩ := m
  obtain ⟨⟨y', mo', d'⟩, _⟩ := n
  simp only [fields, Date.fields, List.cons_append, List.nil_append, List.cons_lt_cons_iff,
    List.not_lt_nil, and_false, or_false, Date.mk.injEq] at h ⊢
  tauto

theorem Valid.timeOfDay_lt (h : m.Valid) : m.timeOfDay < dayMicros := by
  obtain ⟨-, -, hhour, hminute, hsecond, hmicro, -⟩ := h
  unfold timeOfDay dayMicros
  omega

theorem timeOfDay_lt_timeOfDay (hm : m.Valid) (h : [m.hour, m.minute, m.second, m.microsecond] <
    [n.hour, n.minute, n.second, n.microsecond]) : m.timeOfDay < n.timeOfDay := by
  obtain ⟨-, -, -, hminute, hsecond, hmicro, -⟩ := hm
  simp only [List.cons_lt_cons_iff, List.not_lt_nil, and_false, or_false] at h
  unfold timeOfDay
  omega

/-- Moments of one offset are in the order of their instants. -/
theorem Valid.micros_lt_micros (hm : m.Valid) (hn : n.Valid) (ho : m.offset = n.offset)
    (h : m.fields < n.fields) : m.toInstant.micros < n.toInstant.micros := by
  have htime := hm.timeOfDay_lt
  simp only [toInstant, ho]
  rcases fields_lt_fields h with hdate | ⟨hdate, htimes⟩
  · have hdays := Date.toDays_lt_toDays hm.1 hn.1 hdate
    simp only [dayMicros] at *
    omega
  · have hlt := timeOfDay_lt_timeOfDay hm htimes
    rw [hdate]
    omega

theorem eq_of_fields (ho : m.offset = n.offset) (h : m.fields = n.fields) : m = n := by
  obtain ⟨⟨y, mo, d⟩, _⟩ := m
  obtain ⟨⟨y', mo', d'⟩, _⟩ := n
  simp_all [fields, Date.fields]

/-- The later instant has the later moment. -/
theorem Valid.fields_lt_of_micros_lt (hm : m.Valid) (hn : n.Valid) (ho : m.offset = n.offset)
    (h : m.toInstant.micros < n.toInstant.micros) : m.fields < n.fields := by
  rcases lt_trichotomy m.fields n.fields with hlt | heq | hgt
  · exact hlt
  · exact absurd (congrArg (·.toInstant.micros) (eq_of_fields ho heq)) (Int.ne_of_lt h)
  · exact absurd (hn.micros_lt_micros hm ho.symm hgt) (Int.lt_asymm h)

/-! ## Moments of instants -/

theorem daysBeforeYear_end : daysBeforeYear (lastYear + 1) = calendarDays := rfl

theorem offset_ofInstant? {i : Instant} (h : ofInstant? i = some m) : m.offset = some 0 := by
  unfold ofInstant? at h
  dsimp only at h
  split at h
  · cases h
    rfl
  · cases h

/-- What is read is a moment that a clock can show. -/
theorem valid_ofInstant? {i : Instant} (h : ofInstant? i = some m) : m.Valid := by
  unfold ofInstant? at h
  dsimp only at h
  split at h
  · cases h
    rename_i hin
    refine ⟨Date.valid_ofDays _, ?_, ?_, Nat.mod_lt _ (by decide), Nat.mod_lt _ (by decide),
      Nat.mod_lt _ (by decide), by simp [dayMicros]⟩
    · refine Nat.le_of_lt_succ (Date.year_lt_of_toDays_lt ?_)
      rw [Date.toDays_ofDays, Nat.succ_eq_add_one, daysBeforeYear_end]
      unfold dayMicros at *
      omega
    · dsimp only
      unfold dayMicros
      omega
  · cases h

theorem micros_first : first.toInstant.micros = -62135596800000000 := by decide

theorem micros_last : last.toInstant.micros = 253402300799999999 := by decide

theorem inCalendar_iff {i : Instant} :
    InCalendar i ↔ first.toInstant.micros ≤ i.micros ∧ i.micros ≤ last.toInstant.micros := by
  rw [micros_first, micros_last]
  unfold InCalendar epochDays calendarDays dayMicros
  omega

/-! ## Stored numbers -/

theorem ofMillis?_eq_none {ms : Int} :
    ofMillis? ms = none ↔ ms < first.toMillis ∨ last.toMillis < ms := by
  rw [ofMillis?, ← Option.not_isSome_iff_eq_none, ofInstant?_isSome, inCalendar_iff]
  simp only [Instant.ofMillis, toMillis, Instant.toMillis, micros_first, micros_last]
  omega

theorem micros_ofMillis? {ms : Int} (h : ofMillis? ms = some m) :
    m.toInstant.micros = ms * 1000 := congrArg Instant.micros (toInstant_ofInstant? h)

theorem toMillis_ofMillis? {ms : Int} (h : ofMillis? ms = some m) : m.toMillis = ms := by
  rw [toMillis, Instant.toMillis, micros_ofMillis? h]
  omega

theorem microsecond_ofMillis? {ms : Int} (h : ofMillis? ms = some m) : m.microsecond % 1000 = 0 := by
  have hmicros := micros_ofMillis? h
  simp only [toInstant, timeOfDay, offset_ofInstant? h, dayMicros, Option.getD_some,
    Offset.micros_zero] at hmicros
  omega

/-- A moment without an offset is kept as the one in UTC. -/
theorem toMillis_naive (h : m.offset = some 0) : { m with offset := none }.toMillis = m.toMillis := by
  simp [toMillis, toInstant, timeOfDay, h]

/-- A stored number is read as a moment of the calendar, in UTC and to the millisecond, that is kept as
the number again, with its offset or without; only what is before the first moment or after the last
cannot be read, and the greater number is the later moment. -/
theorem ofMillis?_decodes (ms : Int) :
    (ofMillis? ms = none ↔ ms < first.toMillis ∨ last.toMillis < ms) ∧
    (∀ m, ofMillis? ms = some m → m.Valid ∧ m.offset = some 0 ∧ m.microsecond % 1000 = 0 ∧
      m.toMillis = ms ∧ { m with offset := none }.toMillis = ms) ∧
    ∀ ms' m m', ms < ms' → ofMillis? ms = some m → ofMillis? ms' = some m' → m.fields < m'.fields := by
  refine ⟨ofMillis?_eq_none, fun m h => ?_, fun ms' m m' hlt h h' => ?_⟩
  · have hoffset : m.offset = some 0 := offset_ofInstant? h
    exact ⟨valid_ofInstant? h, hoffset, microsecond_ofMillis? h, toMillis_ofMillis? h,
      (toMillis_naive hoffset).trans (toMillis_ofMillis? h)⟩
  · refine (valid_ofInstant? h).fields_lt_of_micros_lt (valid_ofInstant? h')
      ((offset_ofInstant? h).trans (offset_ofInstant? h').symm) ?_
    rw [micros_ofMillis? h, micros_ofMillis? h']
    omega

/-- The milliseconds on either side of the Unix epoch. -/
theorem ofMillis?_decodes_epoch :
    let before : Moment := ⟨⟨1969, 12, 31⟩, 23, 59, 59, 999000, some 0⟩
    let after : Moment := ⟨⟨1970, 1, 1⟩, 0, 0, 0, 0, some 0⟩
    ofMillis? (-1) = some before ∧ ofMillis? 0 = some after ∧ before.Valid ∧ before.toMillis = -1 ∧
      { before with offset := none }.toMillis = -1 ∧ before.fields < after.fields := by
  intro before after
  have hbefore : ofMillis? (-1) = some before := by decide
  have hafter : ofMillis? 0 = some after := by decide
  obtain ⟨-, hread, hlater⟩ := ofMillis?_decodes (-1)
  obtain ⟨hvalid, -, -, hkept, hnaive⟩ := hread before hbefore
  exact ⟨hbefore, hafter, hvalid, hkept, hnaive, hlater 0 before after (by decide) hbefore hafter⟩

end TriviaStore.Moment
