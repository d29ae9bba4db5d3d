import MatView.Text.Integer

/-!
# Dates and times of day

Instants are counted in days or fractions of a second from the start of 1970 and are written in the
Gregorian calendar, which is extended to all years before and after.

## Main definitions

* `Date.ofDays`: the calendar date of a day.
* `Date.write`, `writeTime`: their texts.
* `Instant`: a second and the nanoseconds in it.
-/

namespace MatView.Text

/-! ## Dates -/

/-- A number with zeros in front of it up to a width. -/
def padded (width n : Nat) : List Char :=
  let ds := Nat.toDigits 10 n
  List.replicate (width - ds.length) '0' ++ ds

/-- A calendar date. -/
structure Date where
  year : Int
  month : Nat
  day : Nat
  deriving DecidableEq

namespace Date

/-- The date of the day with the given distance from the first of January 1970. Years are counted
from March on, so that a leap day is the last of its year, in cycles of 400 years. -/
def ofDays (days : Int) : Date :=
  let shifted := days + 719468
  let cycle := Int.fdiv shifted 146097
  let dayOfCycle := (Int.fmod shifted 146097).toNat
  let yearOfCycle :=
    (dayOfCycle - dayOfCycle / 1460 + dayOfCycle / 36524 - dayOfCycle / 146096) / 365
  let dayOfYear := dayOfCycle - (365 * yearOfCycle + yearOfCycle / 4 - yearOfCycle / 100)
  let marchMonth := (5 * dayOfYear + 2) / 153
  let day := dayOfYear - (153 * marchMonth + 2) / 5 + 1
  let month := if marchMonth < 10 then marchMonth + 3 else marchMonth - 9
  ⟨yearOfCycle + cycle * 400 + (if month ≤ 2 then 1 else 0), month, day⟩

/-- The text of a date. Years of other than four digits carry a sign. -/
def write (d : Date) : List Char :=
  let year :=
    if 0 ≤ d.year ∧ d.year ≤ 9999 then padded 4 d.year.natAbs
    else (if d.year < 0 then '-' else '+') :: padded 4 d.year.natAbs
  year ++ '-' :: padded 2 d.month ++ '-' :: padded 2 d.day

end Date

/-! ## Instants -/

/-- The first and the last day that has a date. -/
def dayRange : Int × Int := (-96465292, 95026236)

/-- A second since the start of 1970 and the nanoseconds in it. -/
structure Instant where
  second : Int
  nanosecond : Nat
  deriving DecidableEq

namespace Instant

/-- The instant of a count of fractions of a second. -/
def ofTicks (perSecond : Nat) (ticks : Int) : Instant :=
  ⟨Int.fdiv ticks perSecond, (Int.fmod ticks perSecond).toNat * (1000000000 / perSecond)⟩

/-- The day of an instant. -/
def day (t : Instant) : Int :=
  Int.fdiv t.second 86400

/-- Whether the instant lies on a day that has a date. -/
def hasDate (t : Instant) : Bool :=
  dayRange.1 ≤ t.day && t.day ≤ dayRange.2

/-- The fraction of a second in groups of three digits, as many as it needs. -/
def writeFraction (nanosecond : Nat) : List Char :=
  if nanosecond == 0 then []
  else if nanosecond % 1000000 == 0 then '.' :: padded 3 (nanosecond / 1000000)
  else if nanosecond % 1000 == 0 then '.' :: padded 6 (nanosecond / 1000)
  else '.' :: padded 9 nanosecond

/-- The time of day. -/
def writeTime (t : Instant) : List Char :=
  let s := (Int.fmod t.second 86400).toNat
  padded 2 (s / 3600) ++ ':' :: padded 2 (s / 60 % 60) ++ ':' :: padded 2 (s % 60) ++
    writeFraction t.nanosecond

/-- The date and the time of day. -/
def write (t : Instant) : List Char :=
  (Date.ofDays t.day).write ++ 'T' :: t.writeTime

/-- The date and time of day at a place `offset` seconds ahead, with the offset. -/
def writeAt (offset : Int) (t : Instant) : List Char :=
  let zone :=
    if offset == 0 then ['Z']
    else
      let minutes := offset.natAbs / 60
      (if offset < 0 then '-' else '+') :: padded 2 (minutes / 60) ++ ':' ::
        padded 2 (minutes % 60)
  write ⟨t.second + offset, t.nanosecond⟩ ++ zone

end Instant

/-! ## Time zones -/

/-- Seconds of hours and minutes in two digits each, less than a day. -/
def offsetSeconds? (a b c d : Char) : Option Int := do
  let hours ← natural? [a, b]
  let minutes ← natural? [c, d]
  let seconds := hours * 3600 + minutes * 60
  if seconds < 86400 then some seconds else none

/-- The offset of a time zone that is written as one: `+09:00`, `+0900` or `+09`. -/
def zoneOffset? (zone : String) : Option Int :=
  let signed (sign : Char) (seconds : Option Int) : Option Int :=
    if sign == '+' then seconds
    else if sign == '-' then seconds.map fun s => -s
    else none
  match zone.toList with
  | [sign, a, b, ':', c, d] => signed sign (offsetSeconds? a b c d)
  | [sign, a, b, c, d] => signed sign (offsetSeconds? a b c d)
  | [sign, a, b] => signed sign (offsetSeconds? a b '0' '0')
  | _ => none

end MatView.Text
