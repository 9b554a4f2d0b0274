/-
# The time of a log line

A moment is given in microseconds since the start of 1970 and is written as date and time of day
in universal time.  The calendar is counted from the first of March, so that a leap day is the
last day of its year.
-/
import ScriptTemplate.Log.Record

namespace ScriptTemplate.Log

/-- A day of the calendar. -/
structure Date where
  year : Nat
  month : Nat
  day : Nat
deriving DecidableEq, Repr, Inhabited

/-- Days from the first of March of year zero to the start of 1970. -/
def daysBefore1970 : Nat := 719468

/-- Days in four hundred years. -/
def daysPerCycle : Nat := 146097

/-- The date of a day since the start of 1970. -/
def Date.ofDay (day : Nat) : Date :=
  let total := day + daysBefore1970
  let inCycle := total % daysPerCycle
  let yearInCycle := (inCycle - inCycle / 1460 + inCycle / 36524 - inCycle / 146096) / 365
  let inYear := inCycle - (365 * yearInCycle + yearInCycle / 4 - yearInCycle / 100)
  -- Months since March; each run of five has 153 days.
  let marchMonth := (5 * inYear + 2) / 153
  let month := if marchMonth < 10 then marchMonth + 3 else marchMonth - 9
  { year := yearInCycle + 400 * (total / daysPerCycle) + (if month ≤ 2 then 1 else 0)
    month
    day := inYear - (153 * marchMonth + 2) / 5 + 1 }

/-- A number with zeros in front, up to a width. -/
def padded (width n : Nat) : Text :=
  (Text.ofNat n).padLeft '0' width

/-- A moment in universal time. -/
def timestampText (microseconds : Nat) : Text :=
  let seconds := microseconds / 1000000
  let date := Date.ofDay (seconds / 86400)
  let rest := microseconds % 1000000
  let fraction : Text := if rest = 0 then "" else "." ++ padded 6 rest
  padded 4 date.year ++ "-" ++ padded 2 date.month ++ "-" ++ padded 2 date.day ++ "T"
    ++ padded 2 (seconds / 3600 % 24) ++ ":" ++ padded 2 (seconds / 60 % 60) ++ ":"
    ++ padded 2 (seconds % 60) ++ fraction ++ "+00:00"

end ScriptTemplate.Log
