/-! # The Gregorian calendar

Days are numbered from 0, which is the first of January of the year 1, and the leap rule of today
is applied to every year. A day number is split into cycles of 400, 100, 4 and 1 years; the last
day of a cycle of 4 or 400 years is where the quotient would run over.
-/

namespace TriviaStore

/-- A day of the calendar. -/
structure Date where
  year : Nat
  month : Nat
  day : Nat
  deriving DecidableEq, Repr, Inhabited

def isLeap (year : Nat) : Bool := year % 4 == 0 && (year % 100 != 0 || year % 400 == 0)

/-- The lengths of the twelve months. -/
def monthLengths (leap : Bool) : List Nat :=
  [31, if leap then 29 else 28, 31, 30, 31, 30, 31, 31, 30, 31, 30, 31]

/-- How many days a month has, 0 if there is no such month. -/
def daysInMonth (year month : Nat) : Nat := (0 :: monthLengths (isLeap year)).getD month 0

/-- Days before the first of January of a year. -/
def daysBeforeYear (year : Nat) : Nat :=
  (year - 1) * 365 + (year - 1) / 4 - (year - 1) / 100 + (year - 1) / 400

/-- Days of the year before the first of a month. -/
def daysBeforeMonth (year month : Nat) : Nat :=
  ((monthLengths (isLeap year)).take (month - 1)).foldr (· + ·) 0

namespace Date

/-- A day that exists, from the year 1 on. -/
def Valid (d : Date) : Prop :=
  1 ≤ d.year ∧ 1 ≤ d.month ∧ d.month ≤ 12 ∧ 1 ≤ d.day ∧ d.day ≤ daysInMonth d.year d.month

instance (d : Date) : Decidable d.Valid := inferInstanceAs (Decidable (_ ∧ _))

/-- The number of a day. -/
def toDays (d : Date) : Nat := daysBeforeYear d.year + daysBeforeMonth d.year d.month + (d.day - 1)

/-- The month and the day in it, given the months from `month` on and the days still to go. -/
def inMonths (month : Nat) : List Nat → Nat → Nat × Nat
  | [], rest => (month, rest + 1)
  | n :: ns, rest => if rest < n then (month, rest + 1) else inMonths (month + 1) ns (rest - n)

/-- The day with number `n`. -/
def ofDays (n : Nat) : Date :=
  let n400 := n / 146097
  let r400 := n % 146097
  let n100 := r400 / 36524
  let r100 := r400 % 36524
  let n4 := r100 / 1461
  let r4 := r100 % 1461
  let n1 := r4 / 365
  let year := n400 * 400 + n100 * 100 + n4 * 4 + n1
  if n1 = 4 ∨ n100 = 4 then ⟨year, 12, 31⟩
  else
    let (month, day) := inMonths 1 (monthLengths (isLeap (year + 1))) (r4 % 365)
    ⟨year + 1, month, day⟩

end Date

end TriviaStore
