/-!
# The calendar

The Gregorian calendar, extended to all years. Days are counted from the first
of January 1970; weekdays from Sunday; days of a year from zero.
-/

namespace Inlay.Time

/-- A day of the calendar. -/
structure Date where
  year : Int
  month : Nat
  day : Nat
  deriving DecidableEq, Repr

def isLeapYear (year : Int) : Bool := year % 4 == 0 && (year % 100 != 0 || year % 400 == 0)

def monthLengths (year : Int) : List Nat :=
  [31, if isLeapYear year then 29 else 28, 31, 30, 31, 30, 31, 31, 30, 31, 30, 31]

def monthLength (year : Int) (month : Nat) : Nat := (monthLengths year).getD (month - 1) 0

/-- The days from the start of year one to the start of 1970. -/
def epochOffset : Int := 719162

def yearStart (year : Int) : Int :=
  365 * (year - 1) + (year - 1) / 4 - (year - 1) / 100 + (year - 1) / 400 - epochOffset

def yearOfDay (n : Int) : Int :=
  let guess := (n + epochOffset) * 400 / 146097 + 1
  if n < yearStart guess then guess - 1
  else if yearStart (guess + 1) ≤ n then guess + 1
  else guess

/-- The month and day that are `rest` days after the start of `month`, given the
lengths of that month and the following ones. -/
def walkMonths (month rest : Nat) : List Nat → Nat × Nat
  | [] => (month, rest + 1)
  | length :: more =>
    if rest < length then (month, rest + 1) else walkMonths (month + 1) (rest - length) more

def dayInYear (n : Int) : Nat := (n - yearStart (yearOfDay n)).toNat

def Date.ofDay (n : Int) : Date :=
  let year := yearOfDay n
  let (month, day) := walkMonths 1 (dayInYear n) (monthLengths year)
  ⟨year, month, day⟩

def Date.toDay (d : Date) : Int :=
  let before := ((monthLengths d.year).take (d.month - 1)).foldl Nat.add 0
  yearStart d.year + before + d.day - 1

def weekday (n : Int) : Nat := ((n + 4) % 7).toNat

/-- The number of a day's week in its year, with weeks that start on `first`;
the days before the first such day are in week zero. -/
def weekFrom (first : Nat) (n : Int) : Nat :=
  (dayInYear n + 7 - (weekday n + 7 - first) % 7) / 7

/-- The year and the number of a day's week, where a week starts on Monday and
belongs to the year that holds its Thursday. -/
def thursdayWeek (n : Int) : Int × Nat :=
  let thursday := n - ((weekday n + 6) % 7 : Nat) + 3
  (yearOfDay thursday, dayInYear thursday / 7 + 1)

end Inlay.Time
