/-
# Times in a log

A line of a log begins with the time of its event, in universal time: the date, the letter `T`, the
time of day with six places behind the second, and the letter `Z`.

Key definitions: `Log.Date.ofDays`, `Log.stamp`.
-/
namespace StreamEditor
namespace Log

/-- A day of the calendar. -/
structure Date where
  year : Nat
  month : Nat
  day : Nat
  deriving DecidableEq, Repr

/-- The day that is some days after the first of January 1970. Years are counted from March, so
that the day that leap years add comes last; 400 years have 146097 days. -/
def Date.ofDays (days : Nat) : Date :=
  let z := days + 719468
  let ofEra := z % 146097
  let year := (ofEra - ofEra / 1460 + ofEra / 36524 - ofEra / 146096) / 365
  let ofYear := ofEra - (365 * year + year / 4 - year / 100)
  let m := (5 * ofYear + 2) / 153
  let month := if m < 10 then m + 3 else m - 9
  ⟨z / 146097 * 400 + year + (if month ≤ 2 then 1 else 0), month, ofYear - (153 * m + 2) / 5 + 1⟩

/-- A number with zeros in front, up to a width. -/
def padded (width n : Nat) : String :=
  let digits := toString n
  "".pushn '0' (width - digits.length) ++ digits

/-- The time that is some microseconds after the start of 1970. -/
def stamp (microseconds : Nat) : String :=
  let seconds := microseconds / 1000000
  let date := Date.ofDays (seconds / 86400)
  let ofDay := seconds % 86400
  padded 4 date.year ++ "-" ++ padded 2 date.month ++ "-" ++ padded 2 date.day ++ "T" ++
    padded 2 (ofDay / 3600) ++ ":" ++ padded 2 (ofDay / 60 % 60) ++ ":" ++ padded 2 (ofDay % 60) ++
    "." ++ padded 6 (microseconds % 1000000) ++ "Z"

end Log
end StreamEditor
