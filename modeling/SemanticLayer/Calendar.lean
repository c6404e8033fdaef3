/-!
Points in time as seconds since the start of 1970, and the text of one in the proleptic Gregorian
calendar, which starts a cycle of 146097 days every four hundred years.
-/
namespace SemanticLayer

/-- A day of the Gregorian calendar. -/
structure Date where
  year : Int
  month : Nat
  day : Nat
  deriving DecidableEq, Repr

namespace Date

/-- The day `count` days after the first of January 1970. Years are counted from March, so that a
leap day is the last day of its year. -/
def ofDays (count : Int) : Date :=
  let days := count + 719468
  let era := days.fdiv 146097
  let dayOfEra := (days.fmod 146097).toNat
  let yearOfEra :=
    (dayOfEra - dayOfEra / 1460 + dayOfEra / 36524 - dayOfEra / 146096) / 365
  let dayOfYear := dayOfEra - (365 * yearOfEra + yearOfEra / 4 - yearOfEra / 100)
  let monthFromMarch := (5 * dayOfYear + 2) / 153
  let day := dayOfYear - (153 * monthFromMarch + 2) / 5 + 1
  let month := if monthFromMarch < 10 then monthFromMarch + 3 else monthFromMarch - 9
  let year := era * 400 + yearOfEra + (if month ≤ 2 then 1 else 0)
  ⟨year, month, day⟩

end Date

/-- A point in time: seconds since the start of 1970. -/
structure Instant where
  seconds : Int
  deriving DecidableEq, Repr, Inhabited

namespace Instant

/-- The decimal digits of a number, with zeros in front up to a width. -/
def padded (width n : Nat) : String :=
  let digits := Nat.toDigits 10 n
  String.ofList (List.replicate (width - digits.length) '0' ++ digits)

/-- A year has at least four digits; one outside of 0 to 9999 has a sign. -/
def yearText (year : Int) : String :=
  let digits := padded 4 year.natAbs
  if year < 0 then "-" ++ digits else if 9999 < year then "+" ++ digits else digits

/-- The day of a point in time. -/
def date (t : Instant) : Date := Date.ofDays (t.seconds.fdiv 86400)

/-- The text of a point in time: day and time of day. -/
def text (t : Instant) : String :=
  let date := t.date
  let second := (t.seconds.fmod 86400).toNat
  s!"{yearText date.year}-{padded 2 date.month}-{padded 2 date.day}T" ++
    s!"{padded 2 (second / 3600)}:{padded 2 (second / 60 % 60)}:{padded 2 (second % 60)}Z"

/-- The years that a point in time may lie in. -/
def inRange (t : Instant) : Bool :=
  let year := t.date.year;
  decide (-262143 ≤ year ∧ year ≤ 262142)

end Instant
end SemanticLayer
