/-!
# Column types
-/

namespace TableAccess

/-- The type of a column or a parameter. -/
inductive ColumnType where
  | bool
  | int2
  | int4
  | int8
  | oid
  | float4
  | float8
  | text
  | varchar
  | bpchar
  | name
  | unknown
  | uuid
  | timestamptz
  | timestamp
  | date
  | json
  | jsonb
  | bytea
  | numeric
  /-- Any type whose cells are not read. -/
  | other (name : String)
  deriving DecidableEq, Repr

namespace ColumnType

/-- The types whose cells are read, by name. -/
def known : List (String × ColumnType) :=
  [("bool", bool), ("int2", int2), ("int4", int4), ("int8", int8), ("oid", oid),
    ("float4", float4), ("float8", float8), ("text", text), ("varchar", varchar),
    ("bpchar", bpchar), ("name", name), ("unknown", unknown), ("uuid", uuid),
    ("timestamptz", timestamptz), ("timestamp", timestamp), ("date", date), ("json", json),
    ("jsonb", jsonb), ("bytea", bytea), ("numeric", numeric)]

def ofName (name : String) : ColumnType :=
  match known.find? (·.1 == name) with
  | some (_, t) => t
  | none => other name

/-- The types whose cells are text as it is. -/
def isText : ColumnType → Bool
  | text | varchar | bpchar | name | unknown => true
  | _ => false

end ColumnType
end TableAccess
