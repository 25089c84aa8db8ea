/-! # Instants

Points in time with a resolution of a millisecond, and the way they are
written in documents.
-/

namespace SearchFeed

/-- Milliseconds since the beginning of 1970. -/
structure Instant where
  millis : Nat
deriving DecidableEq, Repr, Inhabited

namespace Instant

/-- The milliseconds from one instant to a later one, zero if it is not later. -/
def elapsedTo (start finish : Instant) : Nat := finish.millis - start.millis

/-- A number with leading zeros up to a width. -/
def padded (width n : Nat) : String :=
  let digits := Nat.toDigits 10 n
  String.ofList (List.replicate (width - digits.length) '0' ++ digits)

/-- Year, month and day of a day counted from the beginning of 1970. Years are counted from March,
so that the day that is added in leap years is the last of its year. -/
def calendarDay (day : Nat) : Nat × Nat × Nat :=
  let shifted := day + 719468
  let era := shifted / 146097
  let ofEra := shifted % 146097
  let yearOfEra := (ofEra - ofEra / 1460 + ofEra / 36524 - ofEra / 146096) / 365
  let ofYear := ofEra - (365 * yearOfEra + yearOfEra / 4 - yearOfEra / 100)
  let shiftedMonth := (5 * ofYear + 2) / 153
  let dayOfMonth := ofYear - (153 * shiftedMonth + 2) / 5 + 1
  let month := if shiftedMonth < 10 then shiftedMonth + 3 else shiftedMonth - 9
  let year := yearOfEra + era * 400 + (if month ≤ 2 then 1 else 0)
  (year, month, dayOfMonth)

/-- The instant as a date and a time of day in universal time. -/
def text (instant : Instant) : String :=
  let seconds := instant.millis / 1000
  let (year, month, day) := calendarDay (seconds / 86400)
  padded 4 year ++ "-" ++ padded 2 month ++ "-" ++ padded 2 day ++ "T" ++
    padded 2 (seconds / 3600 % 24) ++ ":" ++ padded 2 (seconds / 60 % 60) ++ ":" ++
    padded 2 (seconds % 60) ++ "." ++ padded 3 (instant.millis % 1000) ++ "Z"

end Instant

end SearchFeed
