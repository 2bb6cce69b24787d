/-!
# Moments

A point in time with the offset of a clock from universal time, and the days of the proleptic
Gregorian calendar.
-/

namespace CypherSession

structure Moment where
  /-- Seconds since the start of 1970 in universal time. -/
  seconds : Int
  /-- How many seconds the clock is ahead of universal time. -/
  offset : Int
  deriving DecidableEq, Repr

namespace Calendar

def isLeapYear (year : Nat) : Bool :=
  year % 4 = 0 && (year % 100 ≠ 0 || year % 400 = 0)

def daysInMonth (year month : Nat) : Nat :=
  match month with
  | 2 => if isLeapYear year then 29 else 28
  | 4 | 6 | 9 | 11 => 30
  | _ => 31

def daysBeforeYear (year : Nat) : Nat :=
  365 * year + (year + 3) / 4 - (year + 99) / 100 + (year + 399) / 400

def daysBeforeMonth (year month : Nat) : Nat :=
  ((List.range month).drop 1).foldl (fun days m => days + daysInMonth year m) 0

def epochDay : Nat := daysBeforeYear 1970

def dayNumber (year month day : Nat) : Int :=
  (daysBeforeYear year + daysBeforeMonth year month + (day - 1) : Nat) - (epochDay : Int)

def weekday (dayNumber : Int) : Nat := ((dayNumber + 3) % 7).toNat

example : dayNumber 1970 1 1 = 0 := by decide
example : dayNumber 2000 3 1 = 11017 := by decide
example : weekday (dayNumber 2026 10 19) = 0 := by decide

end Calendar

end CypherSession
