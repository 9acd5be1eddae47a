/-!
# Times in the log

The time of a log line is given in seconds since the beginning of 1970, and written as a date and a
time of day. Years are counted from March, so that the leap day is the last day of a year, in
periods of four hundred years, after which the calendar repeats.
-/

namespace UnityBuild.Clock

structure Date where
  year : Nat
  month : Nat
  day : Nat
  deriving DecidableEq, Repr

/-- The number of days from the first of March of year zero to the beginning of 1970. -/
def epoch : Nat := 719468

/-- The number of days in four hundred years. -/
def period : Nat := 146097

/-- The date that lies so many days after the beginning of 1970. -/
def Date.ofDays (days : Nat) : Date :=
  let total := days + epoch
  let inPeriod := total % period
  let year := (inPeriod - inPeriod / 1460 + inPeriod / 36524 - inPeriod / 146096) / 365
  let inYear := inPeriod - (365 * year + year / 4 - year / 100)
  let month := (5 * inYear + 2) / 153
  let january := 10 ≤ month
  { year := total / period * 400 + year + if january then 1 else 0
    month := if january then month - 9 else month + 3
    day := inYear - (153 * month + 2) / 5 + 1 }

def padded (width number : Nat) : String :=
  let digits := Nat.toDigits 10 number
  String.ofList (List.replicate (width - digits.length) '0' ++ digits)

/-- The date and the time of day, in universal time. -/
def written (seconds : Nat) : String :=
  let date := Date.ofDays (seconds / 86400)
  let time := seconds % 86400
  padded 4 date.year ++ "-" ++ padded 2 date.month ++ "-" ++ padded 2 date.day ++ "T"
    ++ padded 2 (time / 3600) ++ ":" ++ padded 2 (time / 60 % 60) ++ ":"
    ++ padded 2 (time % 60) ++ "Z"

end UnityBuild.Clock
