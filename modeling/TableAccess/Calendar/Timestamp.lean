import TableAccess.Calendar.Date
import TableAccess.Calendar.Time

/-!
# Timestamps

A `LocalTimestamp` is what a calendar and a clock on the wall show; a `Timestamp` is the instant
at which those of universal time show it. Columns hold both as microseconds after the start of
the year 2000.
-/

namespace TableAccess

/-- A date and a time of day, in no particular zone. -/
structure LocalTimestamp where
  date : Date
  time : Time
  deriving DecidableEq, Repr

/-- An instant, given by the date and time of day of universal time. -/
structure Timestamp where
  utc : LocalTimestamp
  deriving DecidableEq, Repr

namespace LocalTimestamp

/-- The nanoseconds after the start of the year 2000. -/
def nanos (t : LocalTimestamp) : Int :=
  (86400 * t.date.dayNumber + t.time.seconds) * 1000000000 + t.time.nano

/-- The microseconds after the start of the year 2000; a part of one is cut off. -/
def micros (t : LocalTimestamp) : Int :=
  t.nanos.tdiv 1000

/-- The timestamp some microseconds after the start of the year 2000, if it is within reach. -/
def ofMicros? (n : Int) : Option LocalTimestamp := do
  let inDay := (n % 86400000000).toNat
  let second := inDay / 1000000
  let date ← Date.ofDayNumber? (n / 86400000000)
  let time ← Time.of? (second / 3600) (second / 60 % 60) (second % 60) (inDay % 1000000 * 1000)
  return ⟨date, time⟩

/-- The timestamp with its clock set back by some minutes, less than a day's worth. -/
def backMinutes? (t : LocalTimestamp) (minutes : Int) : Option LocalTimestamp := do
  let minute := (60 * t.time.hour + t.time.minute : Int) - minutes
  let inDay := (minute % 1440).toNat
  let date ← t.date.addDays? (minute / 1440)
  let time ← Time.of? (inDay / 60) (inDay % 60) t.time.second t.time.nano
  return ⟨date, time⟩

/-- A timestamp with `mark` between date and time. -/
def chars (mark : Char) (t : LocalTimestamp) : List Char :=
  t.date.chars ++ mark :: t.time.chars

def text (t : LocalTimestamp) : String :=
  String.ofList (t.chars ' ')

def jsonText (t : LocalTimestamp) : String :=
  String.ofList (t.chars 'T')

end LocalTimestamp

namespace Timestamp

/-- A timestamp for people, with the offset of universal time. -/
def text (t : Timestamp) : String :=
  String.ofList (t.utc.chars 'T' ++ ['+', '0', '0', ':', '0', '0'])

/-- A timestamp for JSON, with the letter for universal time. -/
def jsonText (t : Timestamp) : String :=
  String.ofList (t.utc.chars 'T' ++ ['Z'])

end Timestamp
end TableAccess
