import TokenSeal.Text.Basic

/-!
# Time stamps

The time of a log line, in the form of ISO 8601 in UTC: date, `T`, time of day, the microseconds
unless there are none, `Z`. A date is found by counting days from 1 March of the year 0 of the
Gregorian calendar, so that the leap day is the last day of its year.
-/

namespace TokenSeal.Log

/-- A time since the start of 1970. -/
structure Timestamp where
  seconds : Nat
  microseconds : Nat
  deriving DecidableEq, Repr

/-- A day of the Gregorian calendar. -/
structure Date where
  year : Nat
  month : Nat
  day : Nat
  deriving DecidableEq, Repr

namespace Date

/-- Days from 1 March of the year 0 to 1 January 1970. -/
def daysToEpoch : Nat := 719468

/-- Days in 400 years. -/
def daysInEra : Nat := 146097

/-- The date that comes so many days after 1 January 1970. -/
def ofDays (days : Nat) : Date :=
  let n := days + daysToEpoch
  let inEra := n % daysInEra
  let yearOfEra := (inEra - inEra / 1460 + inEra / 36524 - inEra / 146096) / 365
  let inYear := inEra - (365 * yearOfEra + yearOfEra / 4 - yearOfEra / 100)
  let monthFromMarch := (5 * inYear + 2) / 153
  { year := n / daysInEra * 400 + yearOfEra + (if monthFromMarch < 10 then 0 else 1)
    month := if monthFromMarch < 10 then monthFromMarch + 3 else monthFromMarch - 9
    day := inYear - (153 * monthFromMarch + 2) / 5 + 1 }

example : ofDays 0 = ⟨1970, 1, 1⟩ := by decide

example : ofDays 59 = ⟨1970, 3, 1⟩ := by decide

example : ofDays 11016 = ⟨2000, 2, 29⟩ := by decide

example : ofDays 47540 = ⟨2100, 2, 28⟩ ∧ ofDays 47541 = ⟨2100, 3, 1⟩ := by decide

end Date

namespace Timestamp

/-- A number with zeros in front up to `width` digits. -/
def digits (width n : Nat) : String :=
  let s := toString n
  String.ofList (List.replicate (width - s.length) '0') ++ s

/-- The ISO form. -/
def iso (t : Timestamp) : String :=
  let date := Date.ofDays (t.seconds / 86400)
  let inDay := t.seconds % 86400
  digits 4 date.year ++ "-" ++ digits 2 date.month ++ "-" ++ digits 2 date.day ++ "T" ++
    digits 2 (inDay / 3600) ++ ":" ++ digits 2 (inDay / 60 % 60) ++ ":" ++ digits 2 (inDay % 60) ++
    (if t.microseconds = 0 then "" else "." ++ digits 6 t.microseconds) ++ "Z"

example : iso ⟨951782400, 1500⟩ = "2000-02-29T00:00:00.001500Z" := by decide +kernel

end Timestamp

end TokenSeal.Log
