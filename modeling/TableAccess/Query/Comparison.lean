import TableAccess.Refusal
import TableAccess.Text.Blank

/-!
# Comparisons

The operators of predicates. `Comparison.symbols` lists every way to write one, the two-character
symbols first, so that a symbol is never taken for the end of a longer one.
-/

namespace TableAccess

/-- How a column is compared with a value. -/
inductive Comparison where
  | eq
  | ne
  | gt
  | ge
  | lt
  | le
  deriving DecidableEq, Repr

namespace Comparison

/-- The symbols of the operators, in the order in which they are looked for. -/
def symbols : List (String × Comparison) :=
  [("!=", ne), ("<>", ne), (">=", ge), ("<=", le), ("=", eq), (">", gt), ("<", lt)]

def sql : Comparison → String
  | eq => "="
  | ne => "!="
  | gt => ">"
  | ge => ">="
  | lt => "<"
  | le => "<="

/-- Reads an operator; blanks around it do not count. -/
def parse (s : String) : Except Refusal Comparison :=
  match symbols.find? fun (symbol, _) => symbol.toList = Text.trim s.toList with
  | some (_, comparison) => .ok comparison
  | none => .error (.unknownComparison s)

/-- The text before a given end. -/
def before? (tail cs : List Char) : Option (List Char) :=
  if tail.isSuffixOf cs then some (cs.take (cs.length - tail.length)) else none

/-- Splits a text into what stands before an operator at its end and the operator; text without
one asks for equality. -/
def splitEnd (cs : List Char) : List Char × Comparison :=
  let found := symbols.findSome? fun (symbol, comparison) =>
    (before? symbol.toList cs).map fun rest => (Text.trimEnd rest, comparison)
  found.getD (cs, eq)

end Comparison
end TableAccess
