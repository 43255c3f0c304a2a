import TableAccess.Text.Digits

/-!
# Dates

Dates of the proleptic Gregorian calendar within about 262 thousand years of year zero. Days are
numbered from 2000-01-01; the cycle of 400 years that starts in March of 2000 carries the
arithmetic.
-/

namespace TableAccess

namespace Date

def isLeapYear (year : Int) : Bool :=
  year % 4 == 0 && (year % 100 != 0 || year % 400 == 0)

def daysIn (year : Int) (month : Nat) : Nat :=
  if month = 2 then (if isLeapYear year then 29 else 28)
  else if month = 4 ∨ month = 6 ∨ month = 9 ∨ month = 11 then 30
  else 31

/-- A day that the calendar has and that is within reach. -/
abbrev IsValid (year : Int) (month day : Nat) : Prop :=
  (-262143 ≤ year ∧ year ≤ 262142) ∧ (1 ≤ month ∧ month ≤ 12) ∧ 1 ≤ day ∧ day ≤ daysIn year month

end Date

/-- A day of the calendar. -/
structure Date where
  year : Int
  month : Nat
  day : Nat
  valid : Date.IsValid year month day
  deriving DecidableEq, Repr

namespace Date

def of? (year : Int) (month day : Nat) : Option Date :=
  if h : IsValid year month day then some ⟨year, month, day, h⟩ else none

/-- The days before a month in a year that starts in March; March is month zero. -/
def daysBefore (month : Nat) : Nat :=
  (153 * month + 2) / 5

/-- How many days after 2000-01-01 the date is. -/
def dayNumber (d : Date) : Int :=
  let year := (if d.month ≤ 2 then d.year - 1 else d.year) - 2000
  let month := if d.month ≤ 2 then d.month + 9 else d.month - 3
  let inCycle := year % 400
  146097 * (year / 400) + (365 * inCycle + inCycle / 4 - inCycle / 100) +
    (daysBefore month + d.day - 1 : Nat) + 60

/-- The date a number of days after 2000-01-01, if it is within reach. -/
def ofDayNumber? (n : Int) : Option Date :=
  let cycle := (n - 60) / 146097
  let day := ((n - 60) % 146097).toNat
  let year := (day - day / 1460 + day / 36524 - day / 146096) / 365
  let dayOfYear := day - (365 * year + year / 4 - year / 100)
  let month := (5 * dayOfYear + 2) / 153
  let january := month ≥ 10
  of? (2000 + 400 * cycle + year + if january then 1 else 0)
    (if january then month - 9 else month + 3) (dayOfYear - daysBefore month + 1)

/-- The date some days later, if it is within reach. -/
def addDays? (d : Date) (n : Int) : Option Date :=
  if n = 0 then some d else ofDayNumber? (d.dayNumber + n)

/-- A year; one that does not have four digits has a sign. -/
def yearText (year : Int) : List Char :=
  if 0 ≤ year ∧ year ≤ 9999 then Text.padded 4 year.toNat
  else (if year < 0 then '-' else '+') :: Text.padded 4 year.natAbs

def chars (d : Date) : List Char :=
  yearText d.year ++ '-' :: Text.padded 2 d.month ++ '-' :: Text.padded 2 d.day

def text (d : Date) : String :=
  String.ofList d.chars

end Date
end TableAccess
