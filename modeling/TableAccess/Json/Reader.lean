import TableAccess.Json.Token

/-!
# Reading JSON text

The reader keeps the containers that are open and takes one token at a time. When a token does
not belong where it stands, every open container ends there unclosed.
-/

namespace TableAccess

namespace Json.Reader

/-- A container that is still open. -/
inductive Frame where
  | array (items : List Document)
  /-- The members so far and the key whose value comes next, if one has been read. -/
  | object (members : List (Option String × Document)) (key : Option (Option String))

/-- What may come next. -/
inductive Need where
  | value
  /-- An item or the end of an empty array. -/
  | firstItem
  /-- A key or the end of an empty object. -/
  | firstKey
  | key
  | colon
  /-- A comma or the end of a container. -/
  | separator

/-- Where the reader stands. -/
inductive State where
  | reading (frames : List Frame) (need : Need)
  /-- The document is read; `clean` tells whether nothing has followed it. -/
  | finished (d : Document) (clean : Bool)

/-- How many containers may be open at a time. -/
def maxDepth : Nat :=
  127

/-- Adds a value to the innermost container. -/
def place (d : Document) : List Frame → List Frame
  | .array items :: frames => .array (items ++ [d]) :: frames
  | .object members (some key) :: frames => .object (members ++ [(key, d)]) none :: frames
  | frames => frames

def complete (d : Document) (frames : List Frame) : State :=
  match frames with
  | [] => .finished d true
  | frames => .reading (place d frames) .separator

/-- A container inside `depth` others; one that is nested too deep has no value. -/
def limited (depth : Nat) (d : Document) : Document :=
  if depth < maxDepth then d else if d.isWellFormed then .refused else .broken

/-- A container that ends unclosed behind its last value. -/
def unclosed (d : Document) : Frame → Document
  | .array items => .array (items ++ [d]) false
  | .object members none => .object members false
  | .object members (some key) => .object (members ++ [(key, d)]) false

/-- Ends every open container where the text stops being JSON. -/
def stop (frames : List Frame) : State :=
  .finished (frames.foldl unclosed .broken) false

/-- Takes a token where a value is needed. -/
def takeValue (frames : List Frame) : Token → State
  | .openArray => .reading (.array [] :: frames) .firstItem
  | .openObject => .reading (.object [] none :: frames) .firstKey
  | .string (some s) => complete (.string s) frames
  | .string none => complete .refused frames
  | .scalar d => complete d frames
  | _ => stop frames

def close : List Frame → State
  | .array items :: frames => complete (limited frames.length (.array items true)) frames
  | .object members _ :: frames => complete (limited frames.length (.object members true)) frames
  | [] => stop []

/-- Takes a token where a key is needed. -/
def takeKey (frames : List Frame) (token : Token) : State :=
  match frames, token with
  | .object members _ :: frames, .string key =>
    .reading (.object members (some key) :: frames) .colon
  | frames, _ => stop frames

/-- Takes a token behind a value. -/
def takeSeparator (frames : List Frame) (token : Token) : State :=
  match frames, token with
  | .array _ :: _, .comma => .reading frames .value
  | .array _ :: _, .closeArray => close frames
  | .object .. :: _, .comma => .reading frames .key
  | .object .. :: _, .closeObject => close frames
  | _, _ => stop frames

def step (state : State) (token : Token) : State :=
  match state with
  | .finished d _ => .finished d false
  | .reading frames need =>
    match need, token with
    | .firstItem, .closeArray => close frames
    | .firstKey, .closeObject => close frames
    | .value, token | .firstItem, token => takeValue frames token
    | .firstKey, token | .key, token => takeKey frames token
    | .colon, .colon => .reading frames .value
    | .colon, _ => stop frames
    | .separator, token => takeSeparator frames token

end Json.Reader

/-- Reads the document at the start of a text; the second part tells whether nothing but blanks
follows it. -/
def Document.parse (cs : List Char) : Document × Bool :=
  match (Json.Token.scan cs).foldl Json.Reader.step (.reading [] .value) with
  | .finished d clean => (d, clean)
  | .reading frames _ => (frames.foldl Json.Reader.unclosed .broken, false)

/-- Reads the value of a text that holds nothing else. -/
def Json.parse? (s : String) : Option Json :=
  match Document.parse s.toList with
  | (d, true) => d.toJson?
  | (_, false) => none

end TableAccess
