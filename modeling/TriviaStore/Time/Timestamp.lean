import TriviaStore.Quiz.Basic
import TriviaStore.Time.Calendar

/-! # Timestamps

A moment is a date and a time of day, with or without an offset from UTC; without one it is meant
as UTC. The store keeps whole milliseconds since the Unix epoch, rounded into the past, and reads
them back as UTC moments between the years 1 and 9999.
-/

namespace TriviaStore

/-- How far a clock is ahead of UTC. -/
structure Offset where
  micros : Int
  deriving DecidableEq, Repr, Inhabited

namespace Offset

def ofSeconds (seconds : Int) : Offset := ⟨seconds * 1000000⟩

/-- A plain number given as an offset counts seconds. -/
instance : Coe Int Offset := ⟨ofSeconds⟩

instance : Zero Offset := ⟨⟨0⟩⟩

@[simp] theorem micros_zero : (0 : Offset).micros = 0 := rfl

end Offset

/-- A date and a time of day, on a clock with an offset from UTC if there is one. -/
structure Moment where
  date : Date
  hour : Nat
  minute : Nat
  second : Nat
  microsecond : Nat
  offset : Option Offset
  deriving DecidableEq, Repr, Inhabited

/-- Days from the first of January of the year 1 to the Unix epoch. -/
def epochDays : Nat := 719162

def dayMicros : Nat := 86400000000

/-- The last year that a moment can lie in. -/
def lastYear : Nat := 9999

/-- Days from the first of January of the year 1 to the end of the last year. -/
def calendarDays : Nat := 3652059

namespace Moment

/-- Microseconds since midnight. -/
def timeOfDay (m : Moment) : Nat :=
  ((m.hour * 60 + m.minute) * 60 + m.second) * 1000000 + m.microsecond

/-- A moment that a clock can show. -/
def Valid (m : Moment) : Prop :=
  m.date.Valid ∧ m.date.year ≤ lastYear ∧ m.hour < 24 ∧ m.minute < 60 ∧ m.second < 60 ∧
    m.microsecond < 1000000 ∧ ∀ o ∈ m.offset, -dayMicros < o.micros ∧ o.micros < dayMicros

instance (m : Moment) : Decidable m.Valid := inferInstanceAs (Decidable (_ ∧ _))

def toInstant (m : Moment) : Instant :=
  ⟨((m.date.toDays : Int) - epochDays) * dayMicros + m.timeOfDay - (m.offset.getD 0).micros⟩

/-- The UTC moment of an instant, if it lies within the calendar. -/
def ofInstant? (i : Instant) : Option Moment :=
  let fromStart := i.micros + (epochDays * dayMicros : Nat)
  if 0 ≤ fromStart ∧ fromStart < (calendarDays * dayMicros : Nat) then
    let n := fromStart.toNat
    let t := n % dayMicros
    some {
      date := .ofDays (n / dayMicros)
      hour := t / 3600000000
      minute := t / 60000000 % 60
      second := t / 1000000 % 60
      microsecond := t % 1000000
      offset := some 0 }
  else none

/-- The moment with its microseconds cut to whole milliseconds. -/
def truncate (m : Moment) : Moment := { m with microsecond := m.microsecond / 1000 * 1000 }

/-! ## Text -/

/-- A number with zeros in front, at least `width` digits. -/
def padded (width n : Nat) : String :=
  let digits := toString n
  String.ofList (List.replicate (width - digits.length) '0') ++ digits

/-- The ISO 8601 text of a UTC moment; a fraction of zero is left out. -/
def iso (m : Moment) : String :=
  let day := s!"{padded 4 m.date.year}-{padded 2 m.date.month}-{padded 2 m.date.day}"
  let time := s!"{padded 2 m.hour}:{padded 2 m.minute}:{padded 2 m.second}"
  let fraction := if m.microsecond = 0 then "" else s!".{padded 6 m.microsecond}"
  s!"{day}T{time}{fraction}+00:00"

end Moment

/-! ## Milliseconds -/

/-- What the store keeps of an instant: whole milliseconds, rounded into the past. -/
def Instant.toMillis (i : Instant) : Int := i.micros / 1000

/-- The instant of a stored number of milliseconds. -/
def Instant.ofMillis (ms : Int) : Instant := ⟨ms * 1000⟩

/-- What the store keeps of a moment. -/
def Moment.toMillis (m : Moment) : Int := m.toInstant.toMillis

/-- The moment read from a stored number, if it lies within the calendar. -/
def Moment.ofMillis? (ms : Int) : Option Moment := ofInstant? (.ofMillis ms)

/-- What the clock shows, in the precision that the store can keep. -/
def Moment.now? (clock : Instant) : Option Moment := (ofInstant? clock).map truncate

end TriviaStore
