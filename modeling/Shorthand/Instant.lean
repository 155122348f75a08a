/-
This file holds instants: points in time, counted from the first of January 1970.

Instants cover the years from `-262143` to `262142` of the Gregorian calendar, which is taken to
hold at all times. How they are written is up to the surroundings of a program; usually it is as a
date, a time of day and the letter for universal time.
-/

import Shorthand.Decimal.Positional

namespace Shorthand

/-- The first millisecond of the year `-262143`. -/
def earliestMillisecond : Int := -8334601228800000

/-- The last millisecond of the year `262142`. -/
def latestMillisecond : Int := 8210266876799999

/-- A point in time. A clock shows it more exactly than in milliseconds, which only equality
tells. -/
structure Instant where
  milliseconds : Int
  /-- The nanoseconds after the millisecond. -/
  nanoseconds : Nat
  inRange : earliestMillisecond ≤ milliseconds ∧ milliseconds ≤ latestMillisecond
deriving DecidableEq

/-- A day of the calendar. Months and days count from one. -/
structure CalendarDay where
  year : Int
  month : Nat
  day : Nat

namespace CalendarDay

/-- The day with a number, where day zero is the first of January 1970.

The count is moved to the first of March of year zero, so that a leap day is the last of its
year. The calendar repeats after 400 years or 146097 days, and from March on the lengths of
the months repeat with 153 days in five. -/
def ofNumber (number : Int) : CalendarDay :=
  let shifted := number + 719468
  let cycle := shifted.fdiv 146097
  let dayOfCycle := (shifted.fmod 146097).toNat
  let yearOfCycle :=
    (dayOfCycle - dayOfCycle / 1460 + dayOfCycle / 36524 - dayOfCycle / 146096) / 365
  let dayOfYear := dayOfCycle - (365 * yearOfCycle + yearOfCycle / 4 - yearOfCycle / 100)
  let monthFromMarch := (5 * dayOfYear + 2) / 153
  let day := dayOfYear - (153 * monthFromMarch + 2) / 5 + 1
  let month := if monthFromMarch < 10 then monthFromMarch + 3 else monthFromMarch - 9
  let year := yearOfCycle + 400 * cycle
  ⟨if month ≤ 2 then year + 1 else year, month, day⟩

/-- The digits of a number with zeros in front up to a width. -/
def padded (width number : Nat) : List Char :=
  let digits := digitsOf number
  List.replicate (width - digits.length) '0' ++ digits

/-- Year, month and day with hyphens between. A year of more than four digits or before year
zero has its sign. -/
def text (day : CalendarDay) : List Char :=
  let year :=
    if day.year < 0 then '-' :: padded 4 day.year.natAbs
    else if 9999 < day.year then '+' :: digitsOf day.year.natAbs
    else padded 4 day.year.natAbs
  year ++ '-' :: padded 2 day.month ++ '-' :: padded 2 day.day

end CalendarDay

namespace Instant

/-- The instant at a number of milliseconds, if it is one that the calendar covers. -/
def ofMilliseconds? (milliseconds : Int) : Option Instant :=
  if inRange : earliestMillisecond ≤ milliseconds ∧ milliseconds ≤ latestMillisecond then
    some ⟨milliseconds, 0, inRange⟩
  else none

/-- The instant from which all others are counted. -/
def epoch : Instant := ⟨0, 0, by decide⟩

/-- The usual text of an instant: the calendar day and the time of day in universal time, to the
millisecond. -/
def text (instant : Instant) : String :=
  let day := CalendarDay.ofNumber (instant.milliseconds.fdiv 86400000)
  let rest := (instant.milliseconds.fmod 86400000).toNat
  String.ofList
    (day.text ++ 'T' :: CalendarDay.padded 2 (rest / 3600000) ++
      ':' :: CalendarDay.padded 2 (rest / 60000 % 60) ++
      ':' :: CalendarDay.padded 2 (rest / 1000 % 60) ++
      '.' :: CalendarDay.padded 3 (rest % 1000) ++ ['Z'])

end Instant

end Shorthand
