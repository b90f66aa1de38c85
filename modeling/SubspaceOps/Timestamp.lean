/-!
# Dates of clock readings

Seconds since the start of 1970 are shown as a date of the Gregorian calendar and a time of day.
Days are counted from the first of March of a leap-cycle start, so leap days come last.
-/
namespace SubspaceOps.Timestamp

/-- The civil date of a day that is counted from the first of January 1970. -/
def date (day : Nat) : Nat × Nat × Nat :=
  let z := day + 719468
  let cycle := z / 146097
  let dayOfCycle := z % 146097
  let yearOfCycle :=
    (dayOfCycle - dayOfCycle / 1460 + dayOfCycle / 36524 - dayOfCycle / 146096) / 365
  let dayOfYear := dayOfCycle - (365 * yearOfCycle + yearOfCycle / 4 - yearOfCycle / 100)
  let marchMonth := (5 * dayOfYear + 2) / 153
  let dayOfMonth := dayOfYear - (153 * marchMonth + 2) / 5 + 1
  let month := if marchMonth < 10 then marchMonth + 3 else marchMonth - 9
  let year := yearOfCycle + 400 * cycle + (if month ≤ 2 then 1 else 0)
  (year, month, dayOfMonth)

/-- A number with leading zeros up to a width. -/
def padded (width n : Nat) : String :=
  let ds := Nat.toDigits 10 n
  String.ofList (List.replicate (width - ds.length) '0' ++ ds)

/-- The reading in universal time, to the second. -/
def text (seconds : Nat) : String :=
  let (year, month, day) := date (seconds / 86400)
  let rest := seconds % 86400
  padded 4 year ++ "-" ++ padded 2 month ++ "-" ++ padded 2 day ++ "T" ++
    padded 2 (rest / 3600) ++ ":" ++ padded 2 (rest / 60 % 60) ++ ":" ++ padded 2 (rest % 60) ++ "Z"

example : date 0 = (1970, 1, 1) ∧ date 11016 = (2000, 2, 29) ∧ date 19675 = (2023, 11, 14) := by
  decide

end SubspaceOps.Timestamp
