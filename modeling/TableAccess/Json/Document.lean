import TableAccess.Json.Basic

/-!
# JSON documents

A `Document` is JSON as it was written: members stand in the order of the text, repeated keys
included, and the places where the text stops being JSON are marked. What reads a document meets
its faults in the order of the text, and one behind the last thing it needs is never met.
-/

namespace TableAccess

/-- JSON as it was written. -/
inductive Document where
  | null
  | bool (b : Bool)
  | int (n : Int)
  | float (x : Binary64)
  | string (s : String)
  /-- Items up to the closing bracket, or to where the text stops being JSON. -/
  | array (items : List Document) (closed : Bool)
  /-- Members up to the closing brace, or to where the text stops being JSON; a key with half a
  surrogate pair has no value. -/
  | object (members : List (Option String × Document)) (closed : Bool)
  /-- Well-formed text without a value: a number out of range, half a surrogate pair, nesting
  that is too deep. It may stand where nothing reads it. -/
  | refused
  /-- No JSON. -/
  | broken

namespace Document

mutual

/-- The text is JSON throughout. -/
def isWellFormed : Document → Bool
  | array items closed => closed && itemsWellFormed items
  | object members closed => closed && membersWellFormed members
  | broken => false
  | _ => true

def itemsWellFormed : List Document → Bool
  | [] => true
  | d :: ds => isWellFormed d && itemsWellFormed ds

def membersWellFormed : List (Option String × Document) → Bool
  | [] => true
  | (_, d) :: ds => isWellFormed d && membersWellFormed ds

end

mutual

/-- The value of a document: a repeated key keeps its first place and takes its last value.
There is none if any part has none. -/
def toJson? : Document → Option Json
  | null => some .null
  | bool b => some (.bool b)
  | int n => some (.int n)
  | float x => some (.float x)
  | string s => some (.string s)
  | array items closed => if closed then (itemsToJson? items).map .array else none
  | object members closed =>
    if closed then (membersToJson? members).map fun pairs => .object (Entries.ofList pairs)
    else none
  | refused => none
  | broken => none

def itemsToJson? : List Document → Option (List Json)
  | [] => some []
  | d :: ds => do
    let j ← toJson? d
    let js ← itemsToJson? ds
    return j :: js

def membersToJson? : List (Option String × Document) → Option (List (String × Json))
  | [] => some []
  | (key, d) :: ds => do
    let key ← key
    let j ← toJson? d
    let js ← membersToJson? ds
    return (key, j) :: js

end

mutual

def ofJson : Json → Document
  | .null => null
  | .bool b => bool b
  | .int n => int n
  | .float x => float x
  | .string s => string s
  | .array items => array (ofItems items) true
  | .object members => object (ofMembers members) true

def ofItems : List Json → List Document
  | [] => []
  | j :: js => ofJson j :: ofItems js

def ofMembers : List (String × Json) → List (Option String × Document)
  | [] => []
  | (key, j) :: js => (some key, ofJson j) :: ofMembers js

end

/-- Every part of the document has a value. -/
def isReadable (d : Document) : Bool :=
  d.toJson?.isSome

end Document
end TableAccess
