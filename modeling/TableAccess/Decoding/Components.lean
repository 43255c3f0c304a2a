import TableAccess.Decoding.Error

/-!
# Reading parts of documents

The parts of a structure stand under their names, in any order and among others, or in an array
in their own order. Faults are met in the order of the document.
-/

namespace TableAccess.Decoding

def string : Document → Decoded String
  | .string s => .ok s
  | d => d.mismatch "a string"

def integer : Document → Decoded Int64
  | .int n =>
    if n < 9223372036854775808 then .ok (Int64.ofInt n)
    else .error (.wrongValue ((Document.int n).described) "i64")
  | d => d.mismatch "i64"

/-- Reads what may be null. -/
def optional {α : Type} (read : Document → Decoded α) : Document → Decoded (Option α)
  | .null => .ok none
  | d => (read d).map some

def list {α : Type} (read : Document → Decoded α) : Document → Decoded (List α)
  | .array items closed => do
    let values ← items.mapM read
    if closed then return values else throw .malformed
  | d => d.mismatch "a sequence"

/-- Reads the members of an object in order; null has none. -/
def pairs {α : Type} (read : Document → Decoded α) : Document → Decoded (List (String × α))
  | .null => .ok []
  | .object members closed => do
    let values ← members.mapM fun (key, d) =>
      match key with
      | some key => return (key, ← read d)
      | none => throw DecodeError.malformed
    if closed then return values else throw .malformed
  | d => d.mismatch "a map of column keys to values"

/-- A part of a structure that is filled in while a document is read. -/
structure Component (σ : Type) where
  name : String
  required : Bool
  read : Document → σ → Decoded σ

/-- A component that may be left out. -/
def Component.optional {σ α : Type} (name : String) (read : Document → Decoded α)
    (set : α → σ → σ) : Component σ where
  name
  required := false
  read d s := (read d).map (set · s)

def Component.needed {σ α : Type} (name : String) (read : Document → Decoded α)
    (set : α → σ → σ) : Component σ :=
  { Component.optional name read set with required := true }

/-- Reads members; `seen` are the names of the components that have been read. Members of other
names are passed over. -/
def readMembers {σ : Type} (components : List (Component σ)) (closed : Bool)
    (seen : List String) (s : σ) : List (Option String × Document) → Decoded σ
  | [] =>
    if closed then
      match components.find? fun c => c.required && !seen.contains c.name with
      | some c => .error (.missingField c.name)
      | none => .ok s
    else .error .malformed
  | (none, _) :: _ => .error .malformed
  | (some key, d) :: rest =>
    match components.find? (·.name == key) with
    | some c =>
      if seen.contains key then .error (.duplicateField key)
      else do
        let s ← c.read d s
        readMembers components closed (key :: seen) s rest
    | none =>
      if d.isWellFormed then readMembers components closed seen s rest else .error .malformed

/-- Reads items as components in their own order; `index` counts those that have been read. -/
def readItems {σ : Type} (origin : Origin) (expected : String) (closed : Bool) (index : Nat)
    (s : σ) : List (Component σ) → List Document → Decoded σ
  | [], [] => if closed then .ok s else .error .malformed
  | [], rest =>
    match origin with
    | .value => .error (.wrongLength (index + rest.length) "fewer elements in array")
    | .text => .error .malformed
  | c :: components, d :: rest => do
    let s ← c.read d s
    readItems origin expected closed (index + 1) s components rest
  | c :: components, [] =>
    if closed = false then .error .malformed
    else if c.required then .error (.wrongLength index expected)
    else readItems origin expected closed (index + 1) s components []

/-- Reads a structure, whose name and size stand in messages. -/
def structured {σ : Type} (name : String) (components : List (Component σ)) (origin : Origin)
    (s : σ) : Document → Decoded σ
  | .object members closed => readMembers components closed [] s members
  | .array items closed =>
    let expected := s!"struct {name} with {components.length} elements"
    readItems origin expected closed 0 s components items
  | d => d.mismatch s!"struct {name}"

def choice {α : Type} (choices : List (String × α)) (name : String) : Decoded α :=
  match choices.find? (·.1 == name) with
  | some (_, a) => .ok a
  | none => .error (.unknownVariant name (choices.map Prod.fst))

/-- Reads one of several names. It may also stand as the only key of an object, with null for
its value. -/
def named {α : Type} (choices : List (String × α)) (origin : Origin) : Document → Decoded α
  | .string s => choice choices s
  | .object [(some name, d)] closed => do
    let a ← choice choices name
    match d with
    | .null => if closed then return a else throw .malformed
    | d => d.mismatch "unit"
  | d =>
    match origin, d with
    | .text, .object ((some name, d) :: _) _ => do
      let _ ← choice choices name
      match d with
      | .null => throw .malformed
      | d => d.mismatch "unit"
    | .text, _ | _, .refused | _, .broken => .error .malformed
    | .value, .object .. => .error (.wrongValue "map" "map with a single key")
    | .value, d => d.mismatch "string or map"

/-- Reads a value of several forms. It is read as a whole before its form is looked at. -/
def anyForm {α : Type} (form : Document → Option α) (d : Document) : Decoded α :=
  if d.isReadable then
    match form d with
    | some a => .ok a
    | none => .error .noVariant
  else .error .malformed

/-- Accepts a document behind which nothing else stands. -/
def alone {α : Type} (read : Document → Decoded α) (source : Document × Bool) : Decoded α := do
  let a ← read source.1
  if source.2 then return a else throw .malformed

end TableAccess.Decoding
