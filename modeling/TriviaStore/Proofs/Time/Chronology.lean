import TriviaStore.Proofs.Time.Calendar
import Mathlib.Order.Basic

/-! # Days in order

Days that exist are numbered in the order of their years, months and days: what is numbered before a
month of a year, or before a year, are the days of the months and years that precede it. The day with a
number exists, and it lies in the years up to a last one if the number does.
-/

namespace TriviaStore

/-! ## Years -/

def daysInYear (year : Nat) : Nat := if isLeap year then 366 else 365

theorem daysBeforeYear_succ {year : Nat} (h : 1 ≤ year) :
    daysBeforeYear (year + 1) = daysBeforeYear year + daysInYear year := by
  obtain ⟨y, rfl⟩ := Nat.exists_eq_add_of_le' h
  have hfour : (y + 1) / 4 = y / 4 + if (y + 1) % 4 = 0 then 1 else 0 := by split <;> omega
  have hhundred : (y + 1) / 100 = y / 100 + if (y + 1) % 100 = 0 then 1 else 0 := by split <;> omega
  have hcycle : (y + 1) / 400 = y / 400 + if (y + 1) % 400 = 0 then 1 else 0 := by split <;> omega
  have hle : y / 100 ≤ y / 4 := Nat.div_le_div_left (by decide) (by decide)
  have hdays : daysInYear (y + 1) =
      365 + (if (y + 1) % 4 = 0 then 1 else 0) + (if (y + 1) % 400 = 0 then 1 else 0) -
        (if (y + 1) % 100 = 0 then 1 else 0) := by
    unfold daysInYear isLeap
    simp only [Bool.and_eq_true, Bool.or_eq_true, beq_iff_eq, bne_iff_ne]
    repeat' split
    all_goals omega
  unfold daysBeforeYear
  rw [Nat.add_sub_cancel, Nat.add_sub_cancel, hdays, hfour, hhundred, hcycle]
  clear hdays hfour hhundred hcycle
  repeat' split
  all_goals omega

theorem daysBeforeYear_mono {x y : Nat} (h : x ≤ y) : daysBeforeYear x ≤ daysBeforeYear y := by
  induction h with
  | refl => exact Nat.le_refl _
  | @step m _ ih =>
    rcases Nat.eq_zero_or_pos m with rfl | hm
    · exact ih
    · rw [Nat.succ_eq_add_one, daysBeforeYear_succ hm]
      omega

/-! ## Months -/

theorem daysBeforeMonth_succ (year month : Nat) :
    daysBeforeMonth year (month + 2) = daysBeforeMonth year (month + 1) + daysInMonth year (month + 1) := by
  unfold daysBeforeMonth daysInMonth
  generalize monthLengths (isLeap year) = lengths
  have hsum : ∀ l : List Nat, l.foldr (· + ·) 0 = l.sum := fun _ => rfl
  rw [hsum, hsum, List.getD_cons_succ, List.getD_eq_getElem?_getD, Nat.add_sub_cancel,
    show month + 2 - 1 = month + 1 from rfl, List.take_add_one, List.sum_append]
  cases lengths[month]? <;> simp

theorem daysBeforeMonth_mono (year : Nat) {x y : Nat} (h : x ≤ y) :
    daysBeforeMonth year (x + 1) ≤ daysBeforeMonth year (y + 1) := by
  induction h with
  | refl => exact Nat.le_refl _
  | step _ ih =>
    rw [Nat.succ_eq_add_one, daysBeforeMonth_succ]
    omega

/-- The months make up the year. -/
theorem daysBeforeMonth_all (year : Nat) : daysBeforeMonth year 13 = daysInYear year := by
  unfold daysBeforeMonth daysInYear
  cases isLeap year <;> rfl

namespace Date

/-- Year, month and day, to be compared in this order. -/
def fields (d : Date) : List Nat := [d.year, d.month, d.day]

variable {d e : Date}

/-- A day of a month comes before the first of the next. -/
theorem Valid.lt_nextMonth (h : d.Valid) :
    daysBeforeMonth d.year d.month + (d.day - 1) < daysBeforeMonth d.year (d.month + 1) := by
  obtain ⟨-, hmonth, -, hday, hlast⟩ := h
  obtain ⟨month, hm⟩ := Nat.exists_eq_add_of_le' hmonth
  rw [hm] at hlast ⊢
  rw [daysBeforeMonth_succ]
  omega

/-- A day of a year comes before the first of the next. -/
theorem Valid.toDays_lt (h : d.Valid) : d.toDays < daysBeforeYear (d.year + 1) := by
  have hnext := h.lt_nextMonth
  obtain ⟨hyear, -, hdec, -, -⟩ := h
  have hall : daysBeforeMonth d.year (d.month + 1) ≤ daysInYear d.year := by
    rw [← daysBeforeMonth_all]
    exact daysBeforeMonth_mono d.year hdec
  rw [daysBeforeYear_succ hyear, toDays]
  omega

theorem daysBeforeYear_le_toDays (d : Date) : daysBeforeYear d.year ≤ d.toDays := by
  unfold toDays
  omega

theorem toDays_lt_toDays (hd : d.Valid) (he : e.Valid) (h : d.fields < e.fields) :
    d.toDays < e.toDays := by
  simp only [fields, List.cons_lt_cons_iff, List.not_lt_nil, and_false, or_false] at h
  rcases h with hyear | ⟨hyear, hmonth | ⟨hmonth, hday⟩⟩
  · calc d.toDays < daysBeforeYear (d.year + 1) := hd.toDays_lt
      _ ≤ daysBeforeYear e.year := daysBeforeYear_mono hyear
      _ ≤ e.toDays := e.daysBeforeYear_le_toDays
  · obtain ⟨month, hm⟩ := Nat.exists_eq_add_of_le' he.2.1
    have hnext := hd.lt_nextMonth
    have hle : daysBeforeMonth d.year (d.month + 1) ≤ daysBeforeMonth d.year (month + 1) :=
      daysBeforeMonth_mono d.year (by omega)
    rw [toDays, toDays, ← hyear, hm]
    omega
  · have hfirst : 1 ≤ d.day := hd.2.2.2.1
    rw [toDays, toDays, ← hyear, ← hmonth]
    omega

/-! ## The day with a number -/

/-- A rest of days that does not exceed the months is a day of one of them. -/
theorem inMonths_within (month : Nat) {lengths : List Nat} {rest : Nat}
    (h : rest < lengths.foldr (· + ·) 0) : ∃ k day n, inMonths month lengths rest = (month + k, day + 1) ∧
      lengths[k]? = some n ∧ day < n := by
  induction lengths generalizing month rest with
  | nil => exact absurd h (Nat.not_lt_zero rest)
  | cons n ns ih =>
    rw [inMonths]
    split
    · exact ⟨0, rest, n, rfl, rfl, ‹_›⟩
    · rw [List.foldr_cons] at h
      have hrest : rest - n < ns.foldr (· + ·) 0 := by omega
      obtain ⟨k, day, m, hm, hk, hday⟩ := ih (month + 1) hrest
      exact ⟨k + 1, day, m, by rw [hm]; congr 1; omega, hk, hday⟩

theorem valid_inMonths {year rest : Nat} (hyear : 1 ≤ year) (h : rest < 365) :
    Valid ⟨year, (inMonths 1 (monthLengths (isLeap year)) rest).1,
      (inMonths 1 (monthLengths (isLeap year)) rest).2⟩ := by
  have hrest : rest < (monthLengths (isLeap year)).foldr (· + ·) 0 := by
    cases isLeap year
    · exact h
    · exact Nat.lt_succ_of_lt h
  obtain ⟨k, day, n, hin, hk, hday⟩ := inMonths_within 1 hrest
  have hlt : k < (monthLengths (isLeap year)).length := (List.getElem?_eq_some_iff.mp hk).1
  have hlength : (monthLengths (isLeap year)).length = 12 := rfl
  have hin' : daysInMonth year (1 + k) = n := by
    rw [daysInMonth, Nat.add_comm, List.getD_cons_succ, List.getD_eq_getElem?_getD, hk]
    rfl
  rw [hin]
  refine ⟨hyear, Nat.le_add_right 1 k, ?_, Nat.le_add_left 1 day, ?_⟩
  · show 1 + k ≤ 12
    omega
  · show day + 1 ≤ daysInMonth year (1 + k)
    omega

theorem valid_ofDays (n : Nat) : (ofDays n).Valid := by
  unfold ofDays
  dsimp only
  split
  · -- The last day of a long cycle is the last of December.
    refine ⟨?_, Nat.le_add_left 1 11, Nat.le_refl 12, Nat.le_add_left 1 30, Nat.le_refl 31⟩
    dsimp only
    omega
  · exact valid_inMonths (Nat.succ_pos _) (Nat.mod_lt _ (by decide))

/-- Days numbered before a year lie before it. -/
theorem year_lt_of_toDays_lt {year : Nat} (h : d.toDays < daysBeforeYear year) : d.year < year := by
  refine Nat.lt_of_not_le fun hle => ?_
  have hfirst := Nat.le_trans (daysBeforeYear_mono hle) d.daysBeforeYear_le_toDays
  omega

end Date

end TriviaStore
