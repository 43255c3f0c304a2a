import TableAccess.Column.Cell
import TableAccess.Error
import TableAccess.Pool.Address

/-!
# Pools and connection strings

A connection string is a URL, or pairs of an option and its value. `ConnectionString.isValid`
accepts those in which every option is known and has a value of its kind; no option is needed.
A pool opens connections when they are asked for, so making one only checks its connection string.
-/

namespace TableAccess

namespace ConnectionString

/-- An integer between two bounds, with a sign or without. -/
def isIntegerIn (low high : Int) (cs : List Char) : Bool :=
  let (negative, digits) := match cs with
    | '-' :: cs => (true, cs)
    | '+' :: cs => (false, cs)
    | cs => (false, cs)
  let n : Int := Text.value digits
  let n := if negative then -n else n
  !digits.isEmpty && digits.all Char.isDigit && (!negative || low < 0) && low ≤ n && n ≤ high

/-- A port; where none is given the usual one is meant. -/
def isPort (cs : List Char) : Bool :=
  cs.isEmpty || isIntegerIn 0 65535 cs

def isInteger (cs : List Char) : Bool :=
  isIntegerIn (-9223372036854775808) 9223372036854775807 cs

/-- The options that take one of several words. -/
def choices : List (String × List String) :=
  [("sslmode", ["disable", "prefer", "require"]),
    ("sslnegotiation", ["postgres", "direct"]),
    ("target_session_attrs", ["any", "read-write", "read-only"]),
    ("channel_binding", ["disable", "prefer", "require"]),
    ("load_balance_hosts", ["disable", "random"])]

def freeOptions : List String :=
  ["user", "password", "dbname", "options", "application_name", "host"]

def integerOptions : List String :=
  ["connect_timeout", "tcp_user_timeout", "keepalives_idle", "keepalives_interval"]

/-- The option is known and its value is of its kind. -/
def acceptsOption (key : List Char) (value : List Char) : Bool :=
  let name := String.ofList key
  if freeOptions.contains name then true
  else if integerOptions.contains name then isInteger value
  else if name = "port" then (Address.split ',' [] value).all isPort
  else if name = "hostaddr" then (Address.split ',' [] value).all Address.isValid
  else if name = "keepalives" then isIntegerIn 0 18446744073709551615 value
  else if name = "keepalives_retries" then isIntegerIn 0 4294967295 value
  else
    match choices.find? (·.1 == name) with
    | some (_, words) => words.contains (String.ofList value)
    | none => false

/-- Reads a value up to a blank; a backslash takes the next character as it is. -/
def plainValue : List Char → List Char × List Char
  | [] => ([], [])
  | ['\\'] => ([], [])
  | '\\' :: c :: cs =>
    let (value, rest) := plainValue cs
    (c :: value, rest)
  | c :: cs =>
    if Text.isBlank c then ([], c :: cs)
    else
      let (value, rest) := plainValue cs
      (c :: value, rest)

def quotedValue? : List Char → Option (List Char × List Char)
  | [] => none
  | '\'' :: cs => some ([], cs)
  | '\\' :: c :: cs => (quotedValue? cs).map fun (value, rest) => (c :: value, rest)
  | c :: cs => (quotedValue? cs).map fun (value, rest) => (c :: value, rest)

/-- Reads a value, which is not empty unless it is quoted. -/
def value? : List Char → Option (List Char × List Char)
  | '\'' :: cs => quotedValue? cs
  | cs =>
    let (value, rest) := plainValue cs
    if value.isEmpty then none else some (value, rest)

def isKeyCharacter (c : Char) : Bool :=
  !Text.isBlank c && c != '='

/-- Reads up to `count` pairs of an option and its value; text without a name ends them. -/
def acceptsPairs : Nat → List Char → Bool
  | 0, _ => true
  | count + 1, cs =>
    let cs := Text.trimStart cs
    let key := cs.takeWhile isKeyCharacter
    if key.isEmpty then true
    else
      match Text.trimStart (cs.drop key.length) with
      | '=' :: cs =>
        match value? (Text.trimStart cs) with
        | some (value, rest) => acceptsOption key value && acceptsPairs count rest
        | none => false
      | _ => false

/-- The bytes of text with escapes; a percent sign without two digits stands for itself. -/
def percentBytes : List UInt8 → List UInt8
  | [] => []
  | [a] => [a]
  | [a, b] => [a, b]
  | a :: b :: c :: rest =>
    let high := Text.Hex.digit? (Char.ofNat b.toNat)
    let low := Text.Hex.digit? (Char.ofNat c.toNat)
    match a == 37, high, low with
    | true, some high, some low => UInt8.ofNat (16 * high + low) :: percentBytes rest
    | _, _, _ => a :: percentBytes (b :: c :: rest)

/-- The text behind escapes, if it is UTF-8. -/
def decoded? (cs : List Char) : Option (List Char) :=
  (ofUtf8? (percentBytes (String.ofList cs).toUTF8.data.toList)).map String.toList

/-- A host of a URL: any path, or a name in UTF-8. -/
def acceptsHost (cs : List Char) : Bool :=
  (percentBytes (String.ofList cs).toUTF8.data.toList).head? == some 47 || (decoded? cs).isSome

/-- The text before the first of some characters, if one of them stands in it, and the text from
there on. -/
def cut (marks : List Char) (cs : List Char) : List Char × List Char :=
  (cs.takeWhile (!marks.contains ·), cs.dropWhile (!marks.contains ·))

def acceptsPort (cs : List Char) : Bool :=
  match decoded? cs with
  | some port => acceptsOption "port".toList port
  | none => false

/-- A host of a URL with an optional port; brackets hold a host with colons. -/
def acceptsChunk (cs : List Char) : Bool :=
  match cs with
  | '[' :: cs =>
    match cut [']'] cs with
    | (_, []) => false
    | (host, _ :: []) => acceptsHost host
    | (host, _ :: ':' :: port) => acceptsHost host && acceptsPort port
    | _ => false
  | cs =>
    match cut [':'] cs with
    | (host, []) => acceptsHost host
    | (host, _ :: port) => acceptsHost host && acceptsPort port

/-- The user before an at sign, whose password may be any bytes. -/
def acceptsCredentials (cs : List Char) : Bool :=
  (decoded? (cut [':'] cs).1).isSome

/-- An option of a URL, before its escapes are read. -/
def acceptsParameter (key value : List Char) : Bool :=
  match decoded? key with
  | none => false
  | some key =>
    if String.ofList key = "host" then acceptsHost value
    else
      match decoded? value with
      | some value => acceptsOption key value
      | none => false

def acceptsParameters : Nat → List Char → Bool
  | 0, _ => true
  | _, [] => true
  | count + 1, cs =>
    match cut ['='] cs with
    | (_, []) => false
    | (key, _ :: cs) =>
      let (value, rest) := cut ['&'] cs
      acceptsParameter key value && acceptsParameters count (rest.drop 1)

/-- The part of a URL behind its hosts: a database and options. -/
def acceptsPath (cs : List Char) : Bool :=
  let (database, rest) := match cs with
    | '/' :: cs => cut ['?'] cs
    | cs => ([], cs)
  (decoded? database).isSome && acceptsParameters rest.length (rest.drop 1)

/-- A URL behind its scheme. -/
def acceptsUrl (cs : List Char) : Bool :=
  let (credentials, rest) := match cut ['@'] cs with
    | (_, []) => ([], cs)
    | (credentials, _ :: rest) => (credentials, rest)
  let (hosts, rest) := cut ['/', '?'] rest
  acceptsCredentials credentials &&
    (hosts.isEmpty || (Address.split ',' [] hosts).all acceptsChunk) && acceptsPath rest

def schemes : List (List Char) :=
  ["postgres://".toList, "postgresql://".toList]

def isValid (s : String) : Bool :=
  let cs := s.toList
  match schemes.find? (·.isPrefixOf cs) with
  | some scheme => acceptsUrl (cs.drop scheme.length)
  | none => acceptsPairs cs.length cs

end ConnectionString

/-- A pool of connections. -/
structure Pool where
  connectionString : String
  maxSize : Nat
  deriving DecidableEq, Repr

namespace Pool

def create (connectionString : String) (maxSize : Nat := 16) : Except Error Pool :=
  if ConnectionString.isValid connectionString then .ok ⟨connectionString, maxSize⟩
  else .error (.connection "invalid connection string")

end Pool
end TableAccess
