import TableAccess.Calendar.Reader
import TableAccess.Column.Type
import TableAccess.Number.IntegerText
import TableAccess.Numeric.Reader
import TableAccess.Numeric.Wire
import TableAccess.Value.Basic

/-!
# Parameters

`Value.encode` gives the binary form in which a value is sent for a parameter of a type. Numbers
go into every type that can hold them, and text is read as a value of the type.
-/

namespace TableAccess

/-- Why a value cannot be sent for a parameter. -/
inductive BindError where
  /-- The text is no integer of the type. -/
  | integerText (fault : IntegerFault)
  /-- The integer does not fit the type. -/
  | integerRange (fault : IntegerFault)
  | floatText (fault : FloatFault)
  | booleanText (s : String)
  | uuidText
  | calendarText
  | numericText
  /-- The type does not take values of this kind. -/
  | wrongType
  deriving DecidableEq, Repr

/-- The wording of an error, if it is this library's own. -/
def BindError.message? : BindError → Option String
  | integerText fault | integerRange fault => some fault.message
  | floatText fault => some fault.message
  | booleanText s => some s!"invalid boolean '{s}'"
  | uuidText | calendarText | numericText | wrongType => none

def utf8 (s : String) : List UInt8 :=
  s.toUTF8.data.toList

namespace Binary32

/-- The big-endian bytes of a number. -/
def bytes (x : Binary32) : List UInt8 :=
  bigEndian 4 x.bits.toNat

end Binary32

namespace Binary64

def bytes (x : Binary64) : List UInt8 :=
  bigEndian 8 x.bits.toNat

end Binary64

namespace LocalTimestamp

def bytes (t : LocalTimestamp) : List UInt8 :=
  IntegerWidth.eight.bytes t.micros

end LocalTimestamp

def Date.bytes (d : Date) : List UInt8 :=
  IntegerWidth.four.bytes d.dayNumber

def trueWords : List String :=
  ["t", "true", "y", "yes", "on", "1"]

def falseWords : List String :=
  ["f", "false", "n", "no", "off", "0"]

namespace Value

/-- What a value becomes when it is sent. -/
abbrev Bound := Except BindError (List UInt8)

/-- The result of reading a text that must be a value of a type. -/
def bound {α : Type} (error : BindError) (bytes : α → List UInt8) : Option α → Bound
  | some a => .ok (bytes a)
  | none => .error error

def encodeWidth (w : IntegerWidth) (n : Int) : Bound :=
  ((w.check n).map w.bytes).mapError .integerRange

def encodeInt (n : Int) : ColumnType → Bound
  | .int2 => encodeWidth .two n
  | .int4 => encodeWidth .four n
  | .int8 => encodeWidth .eight n
  | .float4 => .ok (Binary32.ofInt n).bytes
  | .float8 => .ok (Binary64.ofInt n).bytes
  | .numeric => bound .numericText Numeric.bytes (Numeric.ofInt? n)
  | _ => .error .wrongType

/-- The bytes of a number with a fraction. For a decimal column it is the shortest decimal that
is read back. -/
def encodeFloat (x : Binary64) : ColumnType → Bound
  | .float4 => .ok x.narrow.bytes
  | .float8 => .ok x.bytes
  | .numeric => bound .numericText Numeric.bytes (Numeric.parse? (x.text .plain).toList)
  | _ => .error .wrongType

def encodeIntegerText (w : IntegerWidth) (cs : List Char) : Bound :=
  ((w.parse cs).map w.bytes).mapError .integerText

def encodeBooleanText (cs : List Char) : Bound :=
  let word := String.ofList (Text.lower cs)
  if word ∈ trueWords then .ok [1]
  else if word ∈ falseWords then .ok [0]
  else .error (.booleanText word)

/-- The bytes of a text: read as a value of the type, its outer blanks apart, or sent as it
is. -/
def encodeText (s : String) (type : ColumnType) : Bound :=
  let cs := Text.trim s.toList
  match type with
  | .uuid => bound .uuidText Uuid.octets (Uuid.parse? cs)
  | .int2 => encodeIntegerText .two cs
  | .int4 => encodeIntegerText .four cs
  | .int8 => encodeIntegerText .eight cs
  | .float4 => ((Binary32.parse cs).map Binary32.bytes).mapError .floatText
  | .float8 => ((Binary64.parse cs).map Binary64.bytes).mapError .floatText
  | .bool => encodeBooleanText cs
  | .date => bound .calendarText Date.bytes (Date.parse? cs)
  | .timestamp => bound .calendarText LocalTimestamp.bytes (LocalTimestamp.parse? cs)
  | .timestamptz =>
    bound .calendarText (fun t : Timestamp => t.utc.bytes) (Timestamp.parse? cs)
  | .numeric => bound .numericText Numeric.bytes (Numeric.parse? cs)
  | type => if type.isText then .ok (utf8 s) else .error .wrongType

/-- The bytes of an identifier, or of its written form for text that is padded or limited. -/
def encodeUuid (u : Uuid) : ColumnType → Bound
  | .text | .varchar | .bpchar => .ok (utf8 u.text)
  | .uuid => .ok u.octets
  | _ => .error .wrongType

/-- The bytes of JSON; the binary form has its version in front. -/
def encodeJson (j : Json) : ColumnType → Bound
  | .json => .ok (utf8 j.text)
  | .jsonb => .ok (1 :: utf8 j.text)
  | _ => .error .wrongType

/-- A value that goes into columns of one type only. -/
def encodeOnly (expected : ColumnType) (bytes : List UInt8) (type : ColumnType) : Bound :=
  if type = expected then .ok bytes else .error .wrongType

/-- The bytes of a value for a parameter of a type; NULL has none and goes everywhere. -/
def encode (v : Value) (type : ColumnType) : Except BindError (Option (List UInt8)) :=
  match v with
  | null => .ok none
  | bool b => (encodeOnly .bool [if b then 1 else 0] type).map some
  | int n => (encodeInt n.toInt type).map some
  | float x => (encodeFloat x type).map some
  | text s => (encodeText s type).map some
  | uuid u => (encodeUuid u type).map some
  | timestamp t => (encodeOnly .timestamptz t.utc.bytes type).map some
  | localTimestamp t => (encodeOnly .timestamp t.bytes type).map some
  | date d => (encodeOnly .date d.bytes type).map some
  | json j => (encodeJson j type).map some
  | bytes bs => (encodeOnly .bytea bs type).map some
  | numeric x => (encodeOnly .numeric x.bytes type).map some

end Value
end TableAccess
