import CameraServer.Text.Numeral

/-!
The proleptic Gregorian calendar in UTC. An instant is a number of milliseconds since
1970-01-01T00:00:00Z and may be negative.
-/

set_option autoImplicit false

namespace CameraServer

/-- Milliseconds since the epoch. -/
abbrev Instant := Int

structure CivilTime where
  year : Int
  month : Nat
  day : Nat
  hour : Nat
  minute : Nat
  second : Nat
deriving DecidableEq, Repr

namespace Calendar

def cycleDays : Int := 146097

def monthStart (month : Nat) : Nat :=
  (153 * month + 2) / 5

/-- Year, month and day of a day number, where day 0 is 1970-01-01. The year is taken to start on
1 March, so that a leap day is its last day. -/
def civilOfDays (days : Int) : Int × Nat × Nat :=
  let shifted := days + 719468
  let cycle := shifted.fdiv cycleDays
  let dayOfCycle := (shifted.fmod cycleDays).toNat
  let yearOfCycle :=
    (dayOfCycle - dayOfCycle / 1460 + dayOfCycle / 36524 - dayOfCycle / 146096) / 365
  let dayOfYear := dayOfCycle - (365 * yearOfCycle + yearOfCycle / 4 - yearOfCycle / 100)
  let month := (5 * dayOfYear + 2) / 153
  let day := dayOfYear - monthStart month + 1
  let year := cycle * 400 + yearOfCycle
  if month < 10 then (year, month + 3, day) else (year + 1, month - 9, day)

def daysOfCivil (year : Int) (month day : Nat) : Int :=
  let shifted := if month < 3 then year - 1 else year
  let monthFromMarch := if month < 3 then month + 9 else month - 3
  let cycle := shifted.fdiv 400
  let yearOfCycle := shifted.fmod 400
  let dayOfYear : Int := monthStart monthFromMarch + day - 1
  cycle * cycleDays + yearOfCycle * 365 + yearOfCycle.fdiv 4 - yearOfCycle.fdiv 100 + dayOfYear
    - 719468

def weekdayOf (days : Int) : Nat :=
  ((days + 3).fmod 7).toNat

def secondOf (now : Instant) : Int :=
  now.fdiv 1000

def civilTime (now : Instant) : CivilTime :=
  let second := secondOf now
  let date := civilOfDays (second.fdiv 86400)
  let ofDay := (second.fmod 86400).toNat
  ⟨date.1, date.2.1, date.2.2, ofDay / 3600, ofDay / 60 % 60, ofDay % 60⟩

def yearChars (year : Int) : List Char :=
  if 0 ≤ year ∧ year ≤ 9999 then Text.padded 4 year.natAbs
  else (if year < 0 then '-' else '+') :: Text.padded 4 year.natAbs

def dateChars (t : CivilTime) : List Char :=
  yearChars t.year ++ '-' :: Text.padded 2 t.month ++ '-' :: Text.padded 2 t.day

def clockChars (t : CivilTime) : List Char :=
  Text.padded 2 t.hour ++ '-' :: Text.padded 2 t.minute ++ '-' :: Text.padded 2 t.second

end Calendar

end CameraServer
