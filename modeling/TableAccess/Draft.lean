import TableAccess.Template

/-!
# Drafts

A draft is a statement that grows at its end. Its text stands in parts, of which the last one takes
more text, and a slot is a part without its value: the values have a list of their own. Another
draft is taken in part by part, and the slots get their numbers when the draft is rendered.
-/

namespace TableAccess

/-- A part of a draft. -/
inductive Draft.Part where
  | text (s : String)
  | slot
  deriving DecidableEq, Repr

/-- The part adds nothing to a statement. -/
def Draft.Part.isEmpty : Draft.Part → Bool
  | .text s => s.isEmpty
  | .slot => false

/-- A statement that is being written. -/
structure Draft where
  parts : List Draft.Part
  values : List Value

namespace Draft

def empty : Draft :=
  ⟨[], []⟩

def ofText (s : String) : Draft :=
  ⟨[.text s], []⟩

/-- A draft that begins with a text or with nothing. -/
def opening : Option String → Draft
  | none => empty
  | some s => ofText s

/-- Parts whose last text goes on; behind a slot a text begins. -/
def extend (s : String) : List Part → List Part
  | [] => [.text s]
  | [.text front] => [.text (front ++ s)]
  | part :: parts => part :: extend s parts

/-- Writes at the end, though it may be nothing. -/
def write (d : Draft) (s : String) : Draft :=
  ⟨extend s d.parts, d.values⟩

/-- Writes at the end unless there is nothing to write. -/
def push (d : Draft) (s : String) : Draft :=
  if s.isEmpty then d else d.write s

def bind (d : Draft) (v : Value) : Draft :=
  ⟨d.parts ++ [.slot], d.values ++ [v]⟩

/-- Slots for values, with commas between them. -/
def bindList (d : Draft) : List Value → Draft
  | [] => d
  | v :: vs => vs.foldl (fun d v => (d.push ", ").bind v) (d.bind v)

def identifier (d : Draft) (i : Identifier) : Draft :=
  d.write i.sql

def table (d : Draft) (t : TableReference) : Draft :=
  d.write t.sql

def fragment (d : Draft) (f : Fragment) : Draft :=
  d.push f.text

/-- Takes a part of another draft, whose value follows later. -/
def take (d : Draft) : Part → Draft
  | .text s => d.push s
  | .slot => ⟨d.parts ++ [.slot], d.values⟩

def append (d e : Draft) : Draft :=
  let taken := e.parts.foldl take d
  ⟨taken.parts, taken.values ++ e.values⟩

/-- The number of values. -/
def count (d : Draft) : Nat :=
  d.values.length

def isEmpty (d : Draft) : Bool :=
  d.parts.all Part.isEmpty

/-- The text of parts whose first slot has the number behind `count`. -/
def renderFrom (count : Nat) : List Part → String
  | [] => ""
  | .text s :: parts => s ++ renderFrom count parts
  | .slot :: parts => "$" ++ toString (count + 1) ++ renderFrom (count + 1) parts

def sql (d : Draft) : String :=
  renderFrom 0 d.parts

def statement (d : Draft) : Statement :=
  ⟨d.sql, d.values⟩

/-- A step in writing a draft. -/
inductive Step where
  | push (s : String)
  | bind (v : Value)
  | bindList (vs : List Value)
  | identifier (i : Identifier)
  | table (t : TableReference)
  | fragment (f : Fragment)
  /-- Takes in a draft that has been written by steps of its own. -/
  | splice (start : Option String) (steps : List Step)

mutual

def Step.perform (d : Draft) : Step → Draft
  | .push s => d.push s
  | .bind v => d.bind v
  | .bindList vs => d.bindList vs
  | .identifier i => d.identifier i
  | .table t => d.table t
  | .fragment f => d.fragment f
  | .splice start steps => d.append (performAll (opening start) steps)

def performAll (d : Draft) : List Step → Draft
  | [] => d
  | step :: steps => performAll (step.perform d) steps

end

/-- The draft that steps write. -/
def make (start : Option String) (steps : List Step) : Draft :=
  performAll (opening start) steps

end Draft
end TableAccess
