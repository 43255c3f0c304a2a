import TableAccess.Calendar.Timestamp
import TableAccess.Text.Blank

/-!
# Reading dates and times

Text from callers is read leniently: every number may stand behind blanks and may lack leading
zeros. Each reader gives what it has read and the text behind it.
-/

namespace TableAccess.Calendar

open Text (trimStart)

/-- Reads one to `width` digits. -/
def number? (width : Nat) (cs : List Char) : Option (Nat × List Char) :=
  let digits := (cs.take width).takeWhile Char.isDigit
  if digits.isEmpty then none else some (Text.value digits, cs.drop digits.length)

/-- Reads one to `width` digits behind blanks. -/
def field? (width : Nat) (cs : List Char) : Option (Nat × List Char) :=
  number? width (trimStart cs)

/-- Reads one given character; `loose` allows blanks before it. -/
def mark? (loose : Bool) (mark : Char) (cs : List Char) : Option (List Char) :=
  match if loose then trimStart cs else cs with
  | [] => none
  | c :: rest => if c = mark then some rest else none

/-- Reads a year behind blanks; with a sign it may have any number of digits, without one it has
up to four. -/
def year? (cs : List Char) : Option (Int × List Char) :=
  match trimStart cs with
  | '-' :: rest => (number? rest.length rest).map fun (n, rest) => (-(n : Int), rest)
  | '+' :: rest => (number? rest.length rest).map fun (n, rest) => ((n : Int), rest)
  | rest => (number? 4 rest).map fun (n, rest) => ((n : Int), rest)

/-- Reads a date; `loose` allows blanks before the dashes. -/
def date? (loose : Bool) (cs : List Char) : Option (Date × List Char) := do
  let (year, cs) ← year? cs
  let (month, cs) ← field? 2 (← mark? loose '-' cs)
  let (day, cs) ← field? 2 (← mark? loose '-' cs)
  let date ← Date.of? year month day
  return (date, cs)

/-- Reads a fraction of a second in nanoseconds; digits beyond the ninth do not count. -/
def fraction? : List Char → Option (Nat × List Char)
  | '.' :: cs => do
    let (n, _) ← number? 9 cs
    let digits := cs.takeWhile Char.isDigit
    return (n * Nat.pow 10 (9 - min 9 digits.length), cs.drop digits.length)
  | cs => some (0, cs)

/-- Reads a time of day; `loose` allows blanks before the colons. -/
def time? (loose : Bool) (cs : List Char) : Option (Time × List Char) := do
  let (hour, cs) ← field? 2 cs
  let (minute, cs) ← field? 2 (← mark? loose ':' cs)
  let (second, cs) ← field? 2 (← mark? loose ':' cs)
  let (nano, cs) ← fraction? cs
  let time ← Time.of? hour minute second nano
  return (time, cs)

/-- Accepts what was read if nothing but blanks is left. -/
def complete? {α : Type} : Option (α × List Char) → Option α
  | some (a, cs) => if (trimStart cs).isEmpty then some a else none
  | none => none

/-- Reads one of the letters or the blank that may stand before a time with an offset. -/
def divider? : List Char → Option (List Char)
  | c :: cs => if c = 'T' ∨ c = 't' ∨ c = ' ' then some cs else none
  | [] => none

def pair? : List Char → Option (Nat × List Char)
  | a :: b :: cs => if a.isDigit && b.isDigit then some (Text.value [a, b], cs) else none
  | _ => none

/-- Reads the hours and minutes of an offset; colons and blanks between them do not count. -/
def offsetMinutes? (cs : List Char) : Option (Nat × List Char) := do
  let (hours, cs) ← pair? cs
  let (minutes, cs) ← pair? (cs.dropWhile fun c => c == ':' || Text.isBlank c)
  if hours < 24 ∧ minutes < 60 then return (60 * hours + minutes, cs) else none

/-- Reads an offset from universal time in minutes. -/
def offset? : List Char → Option (Int × List Char)
  | [] => none
  | c :: cs =>
    if c = 'Z' ∨ c = 'z' then some (0, cs)
    else if Text.lower ((c :: cs).take 3) = ['u', 't', 'c'] then some (0, cs.drop 2)
    else if c = '+' then (offsetMinutes? cs).map fun (n, cs) => ((n : Int), cs)
    else if c = '-' ∨ c = '−' then (offsetMinutes? cs).map fun (n, cs) => (-(n : Int), cs)
    else none

end Calendar

open Calendar

def Date.parse? (cs : List Char) : Option Date :=
  complete? (date? true cs)

/-- Reads a date and a time with the letter `T` between them. -/
def LocalTimestamp.parseMarked? (cs : List Char) : Option LocalTimestamp :=
  complete? do
    let (date, cs) ← date? true cs
    let (time, cs) ← time? true (← mark? true 'T' cs)
    return (⟨date, time⟩, cs)

/-- Reads a date and a time with blanks or nothing between them. -/
def LocalTimestamp.parseSpaced? (cs : List Char) : Option LocalTimestamp := do
  let (date, cs) ← date? false cs
  let (time, cs) ← time? false cs
  if cs.isEmpty then some ⟨date, time⟩ else none

def LocalTimestamp.parse? (cs : List Char) : Option LocalTimestamp :=
  (parseMarked? cs).or (parseSpaced? cs)

def Timestamp.parse? (cs : List Char) : Option Timestamp := do
  let read : Option (Timestamp × List Char) := do
    let (date, cs) ← date? true cs
    let (time, cs) ← time? true (← divider? cs)
    let (minutes, cs) ← offset? (Text.trimStart cs)
    let utc ← LocalTimestamp.backMinutes? ⟨date, time⟩ minutes
    return (⟨utc⟩, cs)
  complete? read

end TableAccess
