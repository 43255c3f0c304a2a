import TableAccess.Calendar.Timestamp
import TableAccess.Column.Type
import TableAccess.Error
import TableAccess.Json.Reader
import TableAccess.Number.IntegerText
import TableAccess.Numeric.Wire
import TableAccess.Record

/-!
# Cells

Results come in binary form. `Value.ofCell` reads a cell by the type of its column and
`Record.ofCells` a row, whose columns may repeat a name.
-/

namespace TableAccess

/-- A cell in binary form; NULL has none. -/
abbrev Cell := Option (List UInt8)

/-- A column of a result. -/
structure Column where
  name : String
  type : ColumnType
  deriving DecidableEq, Repr

def ofUtf8? (bytes : List UInt8) : Option String :=
  String.fromUTF8? ⟨bytes.toArray⟩

def integerCell? (w : IntegerWidth) (bytes : List UInt8) : Option Int :=
  if bytes.length = w.size then some (w.ofBytes bytes) else none

/-- The number without a sign of a cell of the given size. -/
def naturalCell? (size : Nat) (bytes : List UInt8) : Option Nat :=
  if bytes.length = size then some (ofBigEndian bytes) else none

/-- The JSON of a cell of text. -/
def jsonCell? (bytes : List UInt8) : Option Json :=
  (ofUtf8? bytes).bind Json.parse?

namespace Value

def ofInt (n : Int) : Value :=
  .int (Int64.ofInt n)

/-- The value of a cell; none if it is no cell of the type. -/
def ofBytes? (type : ColumnType) (raw : List UInt8) : Option Value :=
  match type with
  | .bool => if raw.length = 1 then some (.bool (raw.any (· != 0))) else none
  | .int2 => (integerCell? .two raw).map ofInt
  | .int4 => (integerCell? .four raw).map ofInt
  | .int8 => (integerCell? .eight raw).map ofInt
  | .oid => (naturalCell? 4 raw).map fun n => ofInt n
  | .float4 => (naturalCell? 4 raw).map fun n => .float (Binary32.ofNat n).widen
  | .float8 => (naturalCell? 8 raw).map fun n => .float (.ofNat n)
  | .text | .varchar | .bpchar | .name | .unknown => (ofUtf8? raw).map .text
  | .uuid => (Uuid.of? raw).map .uuid
  | .timestamptz =>
    ((integerCell? .eight raw).bind LocalTimestamp.ofMicros?).map fun t => .timestamp ⟨t⟩
  | .timestamp =>
    ((integerCell? .eight raw).bind LocalTimestamp.ofMicros?).map .localTimestamp
  | .date => ((integerCell? .four raw).bind Date.ofDayNumber?).map .date
  | .json => (jsonCell? raw).map .json
  | .jsonb =>
    match raw with
    | 1 :: rest => (jsonCell? rest).map .json
    | _ => none
  | .bytea => some (.bytes raw)
  | .numeric => (Numeric.ofBytes? raw).map .numeric
  | .other _ => none

/-- The value of a cell of a column, which is the `index`-th of its row. A type whose cells are
not read is an error even for NULL. -/
def ofCell (index : Nat) (column : Column) (cell : Cell) : Except Error Value :=
  match column.type, cell with
  | .other name, _ =>
    .error (.decode column.name
      s!"unsupported column type '{name}'; cast it in the select list")
  | _, none => .ok .null
  | type, some raw =>
    match ofBytes? type raw with
    | some v => .ok v
    | none => .error (.decode column.name s!"error deserializing column {index}")

end Value

namespace Record

/-- Reads the cells from the `index`-th on and sets their columns. -/
def readCells (index : Nat) (r : Record) : List (Column × Cell) → Except Error Record
  | [] => .ok r
  | (column, cell) :: rest => do
    let v ← Value.ofCell index column cell
    readCells (index + 1) (r.insert column.name v) rest

def ofCells (columns : List Column) (cells : List Cell) : Except Error Record :=
  readCells 0 empty (columns.zip cells)

end Record
end TableAccess
