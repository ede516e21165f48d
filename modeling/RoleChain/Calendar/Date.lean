/-!
The proleptic Gregorian calendar: lengths of months, and the day count from the first day of the
year one, which is day one. The year zero is a leap year before it.
-/
namespace RoleChain.Calendar

def isLeap (year : Nat) : Bool :=
  year % 4 == 0 && (year % 100 != 0 || year % 400 == 0)

def monthLength (year month : Nat) : Nat :=
  if month = 2 then (if isLeap year then 29 else 28)
  else if month = 4 ∨ month = 6 ∨ month = 9 ∨ month = 11 then 30
  else 31

def daysBeforeMonth (year : Nat) : Nat → Nat
  | 0 => 0
  | 1 => 0
  | month + 2 => daysBeforeMonth year (month + 1) + monthLength year (month + 1)

/-- The days from the start of the year zero to the start of a year. -/
def daysBeforeYear (year : Nat) : Nat :=
  year * 365 + (year + 3) / 4 - (year + 99) / 100 + (year + 399) / 400

/-- The number of a day, counted from the first day of the year zero as zero. -/
def dayNumber (year month day : Nat) : Nat :=
  daysBeforeYear year + daysBeforeMonth year month + (day - 1)

/-- The month and day of the given day of a year, counted from zero; tries `fuel` months. -/
def monthAndDay (year : Nat) : Nat → Nat → Nat → Nat × Nat
  | 0, month, day => (month, day + 1)
  | fuel + 1, month, day =>
    if day < monthLength year month then (month, day + 1)
    else monthAndDay year fuel (month + 1) (day - monthLength year month)

/-- The year, month and day of a day number. -/
def ofDayNumber (n : Nat) : Nat × Nat × Nat :=
  let guess := n / 366
  let year := (List.range 30).foldl
    (fun year _ => if daysBeforeYear (year + 1) ≤ n then year + 1 else year) guess
  let (month, day) := monthAndDay year 11 1 (n - daysBeforeYear year)
  (year, month, day)

end RoleChain.Calendar
