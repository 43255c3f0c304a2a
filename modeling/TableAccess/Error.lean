import TableAccess.Refusal
import TableAccess.Text.Digits

/-!
# Errors

`Error` lists the causes for which a call fails; `Error.message` is the wording of each. A
`Duration` counts nanoseconds and is written in the largest unit that leaves a whole part.
-/

namespace TableAccess

/-- A length of time. -/
structure Duration where
  nanos : Nat
  deriving DecidableEq, Repr

namespace Duration

def ofMicros (n : Nat) : Duration :=
  ⟨1000 * n⟩

/-- A count of `10 ^ places` parts as a decimal number of wholes, without zeros at its end. -/
def wholes (places n : Nat) : String :=
  let fraction := Text.trimZeros (Text.padded places (n % Nat.pow 10 places))
  String.ofList (Text.decimal (n / Nat.pow 10 places) ++
    if fraction.isEmpty then [] else '.' :: fraction)

def text (d : Duration) : String :=
  if 1000000000 ≤ d.nanos then wholes 9 d.nanos ++ "s"
  else if 1000000 ≤ d.nanos then wholes 6 d.nanos ++ "ms"
  else if 1000 ≤ d.nanos then wholes 3 d.nanos ++ "µs"
  else wholes 0 d.nanos ++ "ns"

end Duration

/-- Why a call failed. -/
inductive Error where
  /-- The database cannot be reached. -/
  | connection (reason : String)
  /-- The database refused a statement or failed to run it; the server may have named an
  SQLSTATE. -/
  | execution (sql reason : String) (state : Option String)
  /-- The columns of a table cannot be determined. -/
  | schema (table reason : String)
  /-- A column of a result cannot be read. -/
  | decode (column reason : String)
  /-- The caller's input was refused before anything was sent. -/
  | invalid (cause : Refusal)
  /-- A statement did not finish within its time limit. -/
  | timeout (sql : String) (after : Duration)
  /-- The pool could not hand out a connection. -/
  | pool (reason : String)
  deriving DecidableEq, Repr

namespace Error

def message : Error → String
  | .connection reason => s!"Connection error: {reason}"
  | .execution sql reason _ => s!"Query execution failed: {reason} (sql: {sql})"
  | .schema table reason => s!"Schema error for table '{table}': {reason}"
  | .decode column reason => s!"Decode error on column '{column}': {reason}"
  | .invalid cause => "Validation error: " ++ cause.message
  | .timeout sql after => s!"Query timeout after {after.text} (sql: {sql})"
  | .pool reason => s!"Pool error: {reason}"

/-- The SQLSTATE of a failed statement, if the server named one. -/
def sqlState : Error → Option String
  | .execution _ _ state => state
  | _ => none

def sql : Error → Option String
  | .execution sql _ _ | .timeout sql _ => some sql
  | _ => none

def isUniqueViolation (e : Error) : Bool :=
  e.sqlState == some "23505"

def isForeignKeyViolation (e : Error) : Bool :=
  e.sqlState == some "23503"

def isCheckViolation (e : Error) : Bool :=
  e.sqlState == some "23514"

def isInvalid : Error → Bool
  | .invalid _ => true
  | _ => false

/-- The columns of a table could not be determined. -/
def isSchema : Error → Bool
  | .schema .. => true
  | _ => false

def isTimeout : Error → Bool
  | .timeout .. => true
  | _ => false

end Error
end TableAccess
