/-!
# The Gregorian calendar

Days are counted from 1970-01-01, and the calendar runs without a break in both directions; the
year before 1 is 0. A date is found from its day by the start of its year and the lengths of the
months, and a day from its date by the same two tables.

* `dayInYear_splitMonth`  splitting a day of the year into month and day loses nothing
-/

namespace Outbox.Time

/-- A day of the calendar. Months and days of the month count from one. -/
structure Date where
  year : Int
  month : Nat
  day : Nat
deriving DecidableEq, Repr

/-- Whether the year has a 29th of February. -/
def isLeapYear (year : Int) : Bool :=
  year % 4 == 0 && (year % 100 != 0 || year % 400 == 0)

/-- The lengths of the months of the year, January first. -/
def monthLengths (year : Int) : List Nat :=
  [31, if isLeapYear year then 29 else 28, 31, 30, 31, 30, 31, 31, 30, 31, 30, 31]

/-- The day on which the year starts. -/
def yearStart (year : Int) : Int :=
  let before := year - 1
  365 * before + before / 4 - before / 100 + before / 400 - 719162

/-- The year that contains the day: the quotient by the mean length of a year is right up to one
year either way. -/
def yearOfDay (day : Int) : Int :=
  let guess := (400 * (day + 719162)) / 146097 + 1
  if day < yearStart guess then guess - 1
  else if yearStart (guess + 1) ≤ day then guess + 1
  else guess

/-- Index of the month that contains the `n`th day, and the number of days before it in that
month, both from zero. -/
def splitMonth : List Nat → Nat → Nat × Nat
  | [], n => (0, n)
  | length :: rest, n =>
    if n < length then (0, n)
    else
      let (month, day) := splitMonth rest (n - length)
      (month + 1, day)

/-- The number of days before the given day of the given month, both from zero. -/
def dayInYear (lengths : List Nat) (month day : Nat) : Nat := (lengths.take month).foldr (· + ·) day

/-- Splitting a day of the year into a month and a day of the month loses nothing. -/
theorem dayInYear_splitMonth (lengths : List Nat) (n : Nat) :
    dayInYear lengths (splitMonth lengths n).1 (splitMonth lengths n).2 = n := by
  induction lengths generalizing n with
  | nil => simp [splitMonth, dayInYear]
  | cons length rest ih =>
    unfold splitMonth
    split
    -- the day lies in the first month
    · simp [dayInYear]
    -- the days of the first month are taken off, and the induction counts the rest
    · have := ih (n - length)
      simp only [dayInYear, List.take_succ_cons, List.foldr_cons] at this ⊢
      omega

/-- The date of a day. -/
def dateOfDay (day : Int) : Date :=
  let year := yearOfDay day
  let (month, inMonth) := splitMonth (monthLengths year) (day - yearStart year).toNat
  ⟨year, month + 1, inMonth + 1⟩

/-- The day of a date, if the calendar has it. -/
def dayOfDate? (date : Date) : Option Int :=
  match (monthLengths date.year)[date.month - 1]? with
  | none => none
  | some length =>
    if date.month = 0 ∨ date.day = 0 ∨ length < date.day then none
    else some (yearStart date.year +
      dayInYear (monthLengths date.year) (date.month - 1) (date.day - 1))

end Outbox.Time
