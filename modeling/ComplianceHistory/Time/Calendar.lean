/-!
# The calendar

Days of the proleptic Gregorian calendar, numbered from 1 for the first of January of the year 1, and
the weeks of the year that start on a Monday and belong to the year of their Thursday.
-/

namespace ComplianceHistory.Time

/-- A day of the calendar. -/
structure Date where
  year : Nat
  month : Nat
  day : Nat
deriving DecidableEq, Repr

/-- Whether a year has a 29th of February. -/
def isLeap (year : Nat) : Bool := year % 4 == 0 && (year % 100 != 0 || year % 400 == 0)

/-- The number of days of a month. -/
def daysInMonth (year month : Nat) : Nat :=
  match month with
  | 2 => if isLeap year then 29 else 28
  | 4 | 6 | 9 | 11 => 30
  | _ => 31

/-- The number of days before the first of January of a year. -/
def daysBeforeYear (year : Nat) : Nat :=
  let y := year - 1
  y * 365 + y / 4 - y / 100 + y / 400

/-- The number of days of a year before the first of a month. -/
def daysBeforeMonth (year month : Nat) : Nat :=
  (List.range (month - 1)).foldl (fun n m => n + daysInMonth year (m + 1)) 0

/-- The number of a day. -/
def Date.ordinal (d : Date) : Nat :=
  daysBeforeYear d.year + daysBeforeMonth d.year d.month + d.day

/-- Splits a day of a year, counted from 0, into its month and its day of the month. -/
def monthAndDay (year : Nat) (rest : Nat) : List Nat → Nat × Nat
  | [] => (12, rest + 1)
  | m :: ms =>
    if rest < daysInMonth year m then (m, rest + 1)
    else monthAndDay year (rest - daysInMonth year m) ms

/-- The year of a day given by its number counted from 0, and its place in that year. -/
def yearAndDay (n : Nat) : Nat × Nat :=
  let (c, n) := (n / 146097, n % 146097)
  let h := min (n / 36524) 3
  let n := n - h * 36524
  let (q, n) := (n / 1461, n % 1461)
  let y := min (n / 365) 3
  (c * 400 + h * 100 + q * 4 + y + 1, n - y * 365)

/-- The day of a number. -/
def Date.ofOrdinal (n : Nat) : Date :=
  let (year, rest) := yearAndDay (n - 1)
  let (month, day) := monthAndDay year rest [1, 2, 3, 4, 5, 6, 7, 8, 9, 10, 11]
  ⟨year, month, day⟩

/-- The day of the week of a numbered day; Monday is 0. -/
def weekday (ordinal : Nat) : Nat := (ordinal + 6) % 7

/-- The number of the Monday that starts the first week of a year; before the year 1 it is not positive. -/
def firstMonday (year : Nat) : Int :=
  let first := daysBeforeYear year + 1
  let w := weekday first
  if w ≤ 3 then (first : Int) - w else (first : Int) - w + 7

/-- Whether a year has a 53rd week: it starts on a Thursday, or is a leap year starting on a Wednesday. -/
def hasLongWeekYear (year : Nat) : Bool :=
  let w := weekday (daysBeforeYear year + 1)
  w == 3 || w == 2 && isLeap year

/-- The number of a day given by year, week and day of the week, if there is such a week and day. -/
def weekOrdinal? (year week day : Nat) : Option Int :=
  if week = 0 ∨ week > 53 ∨ week = 53 ∧ !hasLongWeekYear year then none
  else if day = 0 ∨ day > 7 then none
  else some (firstMonday year + (week - 1) * 7 + (day - 1))

example : (Date.mk 2024 2 29).ordinal = 738945 := by decide
example : Date.ofOrdinal 738945 = ⟨2024, 2, 29⟩ := by decide

end ComplianceHistory.Time
