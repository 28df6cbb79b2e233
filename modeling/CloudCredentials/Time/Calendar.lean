/-!
# The calendar

Dates of the Gregorian calendar, extended to all years, and their distance in days from the first
day of 1970.
-/

namespace CloudCredentials.Time

/-! ### Years and months -/

def isLeapYear (year : Nat) : Bool := year % 4 = 0 && (year % 100 ≠ 0 || year % 400 = 0)

def daysInMonth (year month : Nat) : Nat :=
  if month = 2 then (if isLeapYear year then 29 else 28)
  else if month = 4 ∨ month = 6 ∨ month = 9 ∨ month = 11 then 30
  else 31

/-- The days of the years before a year, counted from year one. -/
def daysBeforeYear (year : Nat) : Nat :=
  let past := year - 1
  past * 365 + past / 4 - past / 100 + past / 400

def daysBeforeMonth (year month : Nat) : Nat :=
  (List.range (month - 1)).foldl (fun days m => days + daysInMonth year (m + 1)) 0

theorem daysInMonth_le (year month : Nat) : daysInMonth year month ≤ 31 := by
  unfold daysInMonth
  split
  · split <;> omega
  · split <;> omega

/-! ### Dates -/

/-- A date by its year, month and day. -/
structure Date where
  year : Nat
  month : Nat
  day : Nat
  deriving DecidableEq, Repr

/-- The first day of 1970 in days from the first day of year one. -/
def epochDay : Nat := 719162

def Date.toDays (d : Date) : Int :=
  ((daysBeforeYear d.year + daysBeforeMonth d.year d.month + d.day : Nat) : Int) - 1 - epochDay

/-- The month and the day within it, `rest` days after the first day of `month`. -/
def monthAndDay (year : Nat) : Nat → Nat → Nat → Nat × Nat
  | 0, month, rest => (month, rest + 1)
  | fuel + 1, month, rest =>
    if rest < daysInMonth year month then (month, rest + 1)
    else monthAndDay year fuel (month + 1) (rest - daysInMonth year month)

/-- The last year that begins no later than `day` days after the first day of year one. -/
def yearOfDay (day : Nat) : Nat :=
  let guess := day / 366 + 1
  let years := (List.range (day / 146000 + 3)).map (guess + ·)
  (years.filter fun y => daysBeforeYear y ≤ day).getLast?.getD guess

/-- The date a number of days from the first day of 1970; nothing before year one is a date. -/
def Date.ofDays (days : Int) : Date :=
  let day := (days + epochDay).toNat
  let year := yearOfDay day
  let (month, dayOfMonth) := monthAndDay year 12 1 (day - daysBeforeYear year)
  ⟨year, month, dayOfMonth⟩

inductive DateFault
  | year
  | month
  | day
  deriving DecidableEq, Repr

/-- The date, when year, month and day are in their ranges. -/
def Date.checked (year month day : Nat) : Except DateFault Date :=
  if year < 1 ∨ 9999 < year then .error .year
  else if month < 1 ∨ 12 < month then .error .month
  else if day < 1 ∨ daysInMonth year month < day then .error .day
  else .ok ⟨year, month, day⟩

end CloudCredentials.Time
