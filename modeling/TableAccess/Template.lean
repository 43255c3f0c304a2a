import TableAccess.Fragment
import TableAccess.TableReference
import TableAccess.Value.Basic

/-!
# SQL templates

A template is SQL text with slots for values. The slots have no numbers until the template is
rendered, so templates can be put together in any order; `Template.statement` numbers them and
lists their values as parameters.
-/

namespace TableAccess

/-- SQL text with numbered placeholders, and the values of the placeholders in order. -/
structure Statement where
  sql : String
  params : List Value

/-- A piece of a template. -/
inductive Piece where
  | text (s : String)
  | slot (v : Value)

/-- SQL text with slots for values. -/
structure Template where
  pieces : List Piece

namespace Piece

def value? : Piece → Option Value
  | text _ => none
  | slot v => some v

/-- The piece adds nothing to a statement. -/
def isEmpty : Piece → Bool
  | text s => s.isEmpty
  | slot _ => false

end Piece

namespace Template

def empty : Template :=
  ⟨[]⟩

def text (s : String) : Template :=
  ⟨[.text s]⟩

def slot (v : Value) : Template :=
  ⟨[.slot v]⟩

def append (t u : Template) : Template :=
  ⟨t.pieces ++ u.pieces⟩

instance : Append Template := ⟨append⟩

/-- Templates with a text between them. -/
def joined (separator : String) : List Template → Template
  | [] => empty
  | [t] => t
  | t :: ts => t ++ text separator ++ joined separator ts

def slots (values : List Value) : Template :=
  joined ", " (values.map slot)

def identifier (i : Identifier) : Template :=
  text i.sql

def table (t : TableReference) : Template :=
  text t.sql

def fragment (f : Fragment) : Template :=
  text f.text

def params (t : Template) : List Value :=
  t.pieces.filterMap Piece.value?

def isEmpty (t : Template) : Bool :=
  t.pieces.all Piece.isEmpty

/-- The text of pieces whose first slot has the number behind `count`. -/
def renderFrom (count : Nat) : List Piece → String
  | [] => ""
  | .text s :: pieces => s ++ renderFrom count pieces
  | .slot _ :: pieces => "$" ++ toString (count + 1) ++ renderFrom (count + 1) pieces

/-- The text with the slots numbered from one on. -/
def sql (t : Template) : String :=
  renderFrom 0 t.pieces

def statement (t : Template) : Statement :=
  ⟨t.sql, t.params⟩

@[simp] theorem pieces_append (t u : Template) : (t ++ u).pieces = t.pieces ++ u.pieces := rfl

theorem params_append (t u : Template) : (t ++ u).params = t.params ++ u.params := by
  simp [params]

end Template
end TableAccess
