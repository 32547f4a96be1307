import CameraServer.Calendar
import CameraServer.Text.Blank
import CameraServer.Text.Split

/-!
Dates in headers, in three forms: `Sat, 09 Mar 2024 07:05:01 GMT`, with the weekday in full and two
digits for the year `Saturday, 09-Mar-24 07:05:01 GMT`, and `Sat Mar  9 07:05:01 2024`. A date that
does not exist, or that has the wrong weekday, is none.
-/

set_option autoImplicit false

namespace CameraServer.Http

def weekdays : List String :=
  ["Monday", "Tuesday", "Wednesday", "Thursday", "Friday", "Saturday", "Sunday"]

def shortWeekdays : List String :=
  ["Mon", "Tue", "Wed", "Thu", "Fri", "Sat", "Sun"]

def shortMonths : List String :=
  ["Jan", "Feb", "Mar", "Apr", "May", "Jun", "Jul", "Aug", "Sep", "Oct", "Nov", "Dec"]

structure WrittenDate where
  weekday : Nat
  time : CivilTime
deriving DecidableEq, Repr

namespace WrittenDate

/-! ### Reading from the front of a text -/

def readNumber? (width : Nat) (cs : List Char) : Option (Nat × List Char) :=
  let digits := cs.take width
  if digits.length = width then (Text.natural? digits).map fun n => (n, cs.drop width) else none

def readName? : List String → List Char → Option (Nat × List Char)
  | [], _ => none
  | name :: names, cs =>
      match Text.afterLead? name.toList cs with
      | some rest => some (0, rest)
      | none => (readName? names cs).map fun found => (found.1 + 1, found.2)

def readMark? (mark : String) (cs : List Char) : Option (List Char) :=
  Text.afterLead? mark.toList cs

def readClock? (cs : List Char) : Option ((Nat × Nat × Nat) × List Char) := do
  let (hour, cs) ← readNumber? 2 cs
  let (minute, cs) ← readNumber? 2 (← readMark? ":" cs)
  let (second, cs) ← readNumber? 2 (← readMark? ":" cs)
  return ((hour, minute, second), cs)

def build (weekday year month day : Nat) (clock : Nat × Nat × Nat) : WrittenDate :=
  ⟨weekday, ⟨year, month + 1, day, clock.1, clock.2.1, clock.2.2⟩⟩

def ofFixed? (cs : List Char) : Option WrittenDate := do
  let (weekday, cs) ← readName? shortWeekdays cs
  let (day, cs) ← readNumber? 2 (← readMark? ", " cs)
  let (month, cs) ← readName? shortMonths (← readMark? " " cs)
  let (year, cs) ← readNumber? 4 (← readMark? " " cs)
  let (clock, cs) ← readClock? (← readMark? " " cs)
  let [] ← readMark? " GMT" cs | none
  return build weekday year month day clock

/-- `Saturday, 09-Mar-24 07:05:01 GMT`, with any character between date and time. The century is the
one that puts the year between 1970 and 2069. -/
def ofLong? (cs : List Char) : Option WrittenDate := do
  let (weekday, cs) ← readName? weekdays cs
  let (day, cs) ← readNumber? 2 (← readMark? ", " cs)
  let (month, cs) ← readName? shortMonths (← readMark? "-" cs)
  let (year, cs) ← readNumber? 2 (← readMark? "-" cs)
  let _ :: cs := cs | none
  let (clock, cs) ← readClock? cs
  let [] ← readMark? " GMT" cs | none
  return build weekday (if year < 70 then 2000 + year else 1900 + year) month day clock

def readDay? : List Char → Option (Nat × List Char)
  | ' ' :: cs => readNumber? 1 cs
  | cs => readNumber? 2 cs

def ofSpaced? (cs : List Char) : Option WrittenDate := do
  let (weekday, cs) ← readName? shortWeekdays cs
  let (month, cs) ← readName? shortMonths (← readMark? " " cs)
  let (day, cs) ← readDay? (← readMark? " " cs)
  let (clock, cs) ← readClock? (← readMark? " " cs)
  let (year, cs) ← readNumber? 4 (← readMark? " " cs)
  guard (cs = [])
  return build weekday year month day clock

/-! ### Existing dates -/

def second? (d : WrittenDate) : Option Int :=
  let t := d.time
  let days := Calendar.daysOfCivil t.year t.month t.day
  if 1970 ≤ t.year ∧ t.hour < 24 ∧ t.minute < 60 ∧ t.second < 60
      ∧ Calendar.civilOfDays days = (t.year, t.month, t.day)
      ∧ Calendar.weekdayOf days = d.weekday then
    some (days * 86400 + t.hour * 3600 + t.minute * 60 + t.second)
  else none

end WrittenDate

def dateSecond? (text : String) : Option Int := do
  guard (text.toList.all fun c => c.toNat < 128)
  let cs := Text.trimChars text.toList
  let date ← (WrittenDate.ofFixed? cs).or ((WrittenDate.ofLong? cs).or (WrittenDate.ofSpaced? cs))
  date.second?

end CameraServer.Http
