import Outbox.Time.Calendar

/-!
# Days and dates

The date of a day is in the calendar, and it is the date of that day.
-/

namespace Outbox.Time

/-- A day lies in its year. -/
theorem yearOfDay_spec (day : Int) :
    yearStart (yearOfDay day) ≤ day ∧ day < yearStart (yearOfDay day + 1) := by
  -- the guess is right up to one year either way
  have hguess : yearStart ((400 * (day + 719162)) / 146097 + 1 - 1) ≤ day ∧
      day < yearStart ((400 * (day + 719162)) / 146097 + 1 + 1 + 1) := by
    simp only [yearStart]
    omega
  unfold yearOfDay
  dsimp only
  split
  · next hlt =>
    refine ⟨hguess.1, ?_⟩
    rw [Int.sub_add_cancel]
    exact hlt
  · next hle =>
    split
    · next hle' => exact ⟨hle', hguess.2⟩
    · next hlt => exact ⟨Int.not_lt.1 hle, Int.not_le.1 hlt⟩

/-- How many days there are in months of these lengths. -/
def daysIn : List Nat → Nat
  | [] => 0
  | length :: rest => length + daysIn rest

/-- A year is as long as its months. -/
theorem yearStart_add_one (year : Int) :
    yearStart (year + 1) = yearStart year + daysIn (monthLengths year) := by
  unfold yearStart monthLengths isLeapYear
  -- the rule of leap years, case by case
  by_cases h4 : year % 4 = 0 <;> by_cases h100 : year % 100 = 0 <;>
    by_cases h400 : year % 400 = 0 <;> simp [daysIn, h4, h100, h400] <;> omega

/-- A day of the year lies in its month. -/
theorem splitMonth_spec {lengths : List Nat} {n : Nat} (h : n < daysIn lengths) :
    ∃ length, lengths[(splitMonth lengths n).1]? = some length ∧
      (splitMonth lengths n).2 < length := by
  induction lengths generalizing n with
  | nil => exact absurd h (Nat.not_lt_zero n)
  | cons length rest ih =>
    unfold splitMonth
    split
    · next hlt => exact ⟨length, rfl, hlt⟩
    · next hle =>
      rw [daysIn] at h
      obtain ⟨length', hget, hlt⟩ := ih (n := n - length) (by omega)
      exact ⟨length', by simpa using hget, hlt⟩

/-- The date of a day is the date of that day. -/
theorem dayOfDate?_dateOfDay (day : Int) : dayOfDate? (dateOfDay day) = some day := by
  obtain ⟨hle, hlt⟩ := yearOfDay_spec day
  rw [yearStart_add_one] at hlt
  have hday : ((day - yearStart (yearOfDay day)).toNat : Int) = day - yearStart (yearOfDay day) :=
    Int.toNat_of_nonneg (by omega)
  have hin : (day - yearStart (yearOfDay day)).toNat < daysIn (monthLengths (yearOfDay day)) := by
    omega
  obtain ⟨length, hget, hlength⟩ := splitMonth_spec hin
  have hsplit := dayInYear_splitMonth (monthLengths (yearOfDay day))
    (day - yearStart (yearOfDay day)).toNat
  simp only [dayOfDate?, dateOfDay, Nat.add_sub_cancel, hget, hsplit]
  rw [if_neg (by omega)]
  exact congrArg some (by omega)

/-- Months and days of the month have two digits. -/
theorem dateOfDay_lt (day : Int) : (dateOfDay day).month < 100 ∧ (dateOfDay day).day < 100 := by
  obtain ⟨hle, hlt⟩ := yearOfDay_spec day
  rw [yearStart_add_one] at hlt
  have hin : (day - yearStart (yearOfDay day)).toNat < daysIn (monthLengths (yearOfDay day)) := by
    omega
  obtain ⟨length, hget, hlength⟩ := splitMonth_spec hin
  obtain ⟨hmonth, hmem⟩ := List.getElem?_eq_some_iff.1 hget
  -- no month has more than 31 days
  have hlengths : ∀ l ∈ monthLengths (yearOfDay day), l ≤ 31 := by
    unfold monthLengths
    split <;> decide
  have hbound := hlengths length (hmem ▸ List.getElem_mem hmonth)
  have hmonths : (monthLengths (yearOfDay day)).length = 12 := rfl
  simp only [dateOfDay]
  omega

end Outbox.Time
