import TableAccess.Calendar.Timestamp
import TableAccess.Decoding.Components
import TableAccess.Json.Printer
import TableAccess.Json.Reader
import TableAccess.Numeric.Basic
import TableAccess.Uuid

/-!
# Values

A `Value` is a single scalar: a parameter of a statement or a cell of a result. This module has
its text for people, its JSON form, what JSON is read as and its equality.
-/

namespace TableAccess

/-- A single scalar. -/
inductive Value where
  | null
  | bool (b : Bool)
  | int (n : Int64)
  | float (x : Binary64)
  | text (s : String)
  | uuid (u : Uuid)
  | timestamp (t : Timestamp)
  | localTimestamp (t : LocalTimestamp)
  | date (d : Date)
  | json (j : Json)
  | bytes (bs : List UInt8)
  | numeric (x : Numeric)

namespace Value

def isNull : Value → Bool
  | null => true
  | _ => false

def text? : Value → Option String
  | text s => some s
  | _ => none

def int? : Value → Option Int64
  | int n => some n
  | _ => none

def bool? : Value → Option Bool
  | bool b => some b
  | _ => none

/-- The identifier of a UUID, or that a text stands for. -/
def uuid? : Value → Option Uuid
  | uuid u => some u
  | text s => Uuid.parse? s.toList
  | _ => none

/-- A value for people. -/
def display : Value → String
  | null => "NULL"
  | bool b => toString b
  | int n => toString n.toInt
  | float x => x.text .plain
  | text s => s
  | uuid u => u.text
  | timestamp t => t.text
  | localTimestamp t => t.text
  | date d => d.text
  | json j => j.text
  | bytes bs => s!"<{bs.length} bytes>"
  | numeric x => x.text

/-- A value as JSON: bytes are an array of numbers, and what JSON has no form for is a string. -/
def toJson : Value → Json
  | null => .null
  | bool b => .bool b
  | int n => .int n.toInt
  | float x => .float x
  | text s => .string s
  | uuid u => .string u.text
  | timestamp t => .string t.jsonText
  | localTimestamp t => .string t.jsonText
  | date d => .string d.text
  | json j => j
  | bytes bs => .array (bs.map fun b => .int b.toNat)
  | numeric x => .string x.text

/-- Reads a value: scalars become scalars, arrays and objects are kept as JSON. -/
def ofDocument : Document → Decoded Value
  | .null => .ok null
  | .bool b => .ok (bool b)
  | .int n =>
    if n < 9223372036854775808 then .ok (int (Int64.ofInt n)) else .error (.integerTooLarge n)
  | .float x => .ok (float x)
  | .string s => .ok (text s)
  | d =>
    match d.toJson? with
    | some j => .ok (json j)
    | none => .error .malformed

def ofJson (j : Json) : Decoded Value :=
  ofDocument (.ofJson j)

def parse (cs : List Char) : Decoded Value :=
  Decoding.alone ofDocument (Document.parse cs)

/-- Equality of values of one kind; values of different kinds are never equal. -/
def same : Value → Value → Bool
  | null, null => true
  | bool a, bool b => a == b
  | int m, int n => m == n
  | float x, float y => x.same y
  | text s, text t => s == t
  | uuid u, uuid v => u == v
  | timestamp s, timestamp t => s == t
  | localTimestamp s, localTimestamp t => s == t
  | date c, date d => c == d
  | json i, json j => i.same j
  | bytes as, bytes bs => as == bs
  | numeric x, numeric y => x.same y
  | _, _ => false

end Value
end TableAccess
