namespace Quizmaster.Calendar

def isLeapYear (year : Int) : Bool :=
  year % 4 == 0 && (year % 100 != 0 || year % 400 == 0)

def daysInMonth (year : Int) (month : Nat) : Nat :=
  if month = 2 then if isLeapYear year then 29 else 28
  else if month = 4 ∨ month = 6 ∨ month = 9 ∨ month = 11 then 30
  else 31

/-- Year, month and day of the Gregorian calendar, also before it was in use. There need not be such
    a day. -/
structure Date where
  year : Int
  month : Nat
  day : Nat
deriving DecidableEq, Repr

namespace Date

/-- Whether there is such a day. -/
def isValid (d : Date) : Bool :=
  1 ≤ d.month && d.month ≤ 12 && 1 ≤ d.day && d.day ≤ daysInMonth d.year d.month

/-- The days from 1970-01-01 on. Years are counted from March, so that a leap day is a year's
    last, and in spans of 400, which all have 146097 days. -/
def toDays (d : Date) : Int :=
  let year := if d.month ≤ 2 then d.year - 1 else d.year
  let month := if d.month ≤ 2 then d.month + 9 else d.month - 3
  let ofSpan := year % 400
  let dayOfYear : Int := (153 * month + 2) / 5 + d.day - 1
  (year / 400) * 146097 + ofSpan * 365 + ofSpan / 4 - ofSpan / 100 + dayOfYear - 719468

/-- The date of a number of days from 1970-01-01 on. -/
def ofDays (days : Int) : Date :=
  let shifted := days + 719468
  let ofSpan := (shifted % 146097).toNat
  let yearOfSpan := (ofSpan - ofSpan / 1460 + ofSpan / 36524 - ofSpan / 146096) / 365
  let dayOfYear := ofSpan - (365 * yearOfSpan + yearOfSpan / 4 - yearOfSpan / 100)
  let month := (5 * dayOfYear + 2) / 153
  let day := dayOfYear - (153 * month + 2) / 5 + 1
  let year := (shifted / 146097) * 400 + yearOfSpan
  if month < 10 then ⟨year, month + 3, day⟩ else ⟨year + 1, month - 9, day⟩

end Date

end Quizmaster.Calendar
