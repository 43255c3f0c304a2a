/-!
# Text matches

A LIKE term looks for a text literally: whatever means something in a pattern is escaped before
the wildcards are put around it.
-/

namespace TableAccess

/-- The sides of a pattern that match anything. -/
inductive Wildcard where
  | both
  | before
  | after
  | none
  deriving DecidableEq, Repr

namespace Wildcard

/-- A character in a pattern that stands for itself. -/
def escaped (c : Char) : List Char :=
  if c = '%' ∨ c = '_' ∨ c = '\\' then ['\\', c] else [c]

/-- Anything may stand before the text. -/
def opens : Wildcard → Bool
  | both | before => true
  | after | none => false

def ends : Wildcard → Bool
  | both | after => true
  | before | none => false

/-- The pattern that finds a text. -/
def pattern (side : Wildcard) (cs : List Char) : List Char :=
  (if side.opens then ['%'] else []) ++ cs.flatMap escaped ++ if side.ends then ['%'] else []

end Wildcard

/-- A search for a text in a column. -/
structure TextMatch where
  column : String
  text : String
  side : Wildcard
  deriving DecidableEq, Repr

namespace TextMatch

def anywhere (column text : String) : TextMatch :=
  ⟨column, text, .both⟩

def pattern (term : TextMatch) : String :=
  String.ofList (term.side.pattern term.text.toList)

end TextMatch
end TableAccess
