import TriviaStore.Time.Calendar

/-! # Numbering days

The day with a number is numbered with it again. A number is a count of whole years and a rest of
days in the year that has begun, and the months divide the rest; the last day of a long cycle is the
one case where the count of whole years has gone a year too far.
-/

namespace TriviaStore

/-- Splitting the days of a year over its months loses none. -/
theorem Date.inMonths_eq (month : Nat) (lengths : List Nat) (rest : Nat) :
    ∃ k day, inMonths month lengths rest = (month + k, day + 1) ∧
      (lengths.take k).foldr (· + ·) 0 + day = rest := by
  induction lengths generalizing month rest with
  | nil => exact ⟨0, rest, rfl, by simp⟩
  | cons n ns ih =>
    rw [inMonths]
    split
    · exact ⟨0, rest, rfl, by simp⟩
    · obtain ⟨k, day, h, hr⟩ := ih (month + 1) (rest - n)
      refine ⟨k + 1, day, by rw [h]; congr 1; omega, ?_⟩
      rw [List.take_succ_cons, List.foldr_cons]
      omega

/-- Days before a year, in cycles of 400, 100, 4 and 1 years. -/
theorem daysBeforeYear_cycles {a b c d : Nat} (hb : b < 4) (hc : c < 25) (hd : d < 4) :
    daysBeforeYear (a * 400 + b * 100 + c * 4 + d + 1) =
      a * 146097 + b * 36524 + c * 1461 + d * 365 := by
  unfold daysBeforeYear
  omega

namespace Date

theorem toDays_endOfYear {year : Nat} (h : isLeap year = true) (hy : 0 < year) :
    toDays ⟨year, 12, 31⟩ = daysBeforeYear (year + 1) - 1 := by
  have hm : daysBeforeMonth year 12 = 335 := by
    unfold daysBeforeMonth
    rw [h]
    rfl
  simp only [isLeap, Bool.and_eq_true, Bool.or_eq_true, beq_iff_eq, bne_iff_ne] at h
  simp only [toDays, hm, daysBeforeYear, Nat.add_sub_cancel]
  omega

theorem toDays_inMonths (year rest : Nat) :
    toDays ⟨year, (inMonths 1 (monthLengths (isLeap year)) rest).1,
      (inMonths 1 (monthLengths (isLeap year)) rest).2⟩ = daysBeforeYear year + rest := by
  obtain ⟨k, day, h, hr⟩ := inMonths_eq 1 (monthLengths (isLeap year)) rest
  simp only [h, toDays, daysBeforeMonth, Nat.add_sub_cancel_left, Nat.add_sub_cancel]
  omega

/-- The last day of four years, which is a 366th day, and may end a century too. -/
theorem toDays_overrun {n a b c d : Nat} (hn : n = a * 146097 + b * 36524 + c * 1461 + d * 365)
    (hc : c < 25) (h : (b < 4 ∧ c < 24 ∧ d = 4) ∨ (b = 4 ∧ c = 0 ∧ d = 0)) :
    toDays ⟨a * 400 + b * 100 + c * 4 + d, 12, 31⟩ = n := by
  have hl : isLeap (a * 400 + b * 100 + c * 4 + d) = true := by
    simp only [isLeap, Bool.and_eq_true, Bool.or_eq_true, beq_iff_eq, bne_iff_ne]
    omega
  rw [toDays_endOfYear hl (by omega), hn]
  rcases h with ⟨hb, hc, rfl⟩ | ⟨rfl, rfl, rfl⟩
  · have h := daysBeforeYear_cycles (a := a) hb (Nat.succ_lt_succ hc) (Nat.zero_lt_succ 3)
    have hy : a * 400 + b * 100 + c * 4 + 4 + 1 = a * 400 + b * 100 + (c + 1) * 4 + 0 + 1 := by omega
    rw [hy, h]
    omega
  · have h := daysBeforeYear_cycles (a := a + 1) (b := 0) (c := 0) (d := 0) (by omega) (by omega)
      (by omega)
    have hy : a * 400 + 4 * 100 + 0 * 4 + 0 + 1 = (a + 1) * 400 + 0 * 100 + 0 * 4 + 0 + 1 := by omega
    rw [hy, h]
    omega

theorem toDays_ofDays (n : Nat) : (ofDays n).toDays = n := by
  unfold ofDays
  dsimp only
  split
  · exact toDays_overrun (by omega) (by omega) (by omega)
  · rw [toDays_inMonths, daysBeforeYear_cycles (by omega) (by omega) (by omega)]
    omega

end Date

end TriviaStore
