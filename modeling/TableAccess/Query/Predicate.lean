import TableAccess.Query.Comparison
import TableAccess.Value.Basic

/-!
# Predicates

A predicate compares a column expression with a value. Callers write the column and the operator
as one key: `status` asks for equality, `age >=` compares.
-/

namespace TableAccess

/-- A comparison of a column with a value. -/
structure Predicate where
  column : String
  comparison : Comparison
  value : Value

namespace Predicate

/-- The predicate of a key that may end in an operator. -/
def ofKey (key : String) (value : Value) : Predicate :=
  let (column, comparison) := Comparison.splitEnd (Text.trim key.toList)
  ⟨String.ofList column, comparison, value⟩

end Predicate

/-- Predicates in order; where they stand in a query says how they are combined. -/
abbrev Filter := List Predicate

namespace Filter

def ofPairs (pairs : List (String × Value)) : Filter :=
  pairs.map fun (key, value) => Predicate.ofKey key value

def andKey (filter : Filter) (key : String) (value : Value) : Filter :=
  filter ++ [Predicate.ofKey key value]

/-- Adds a comparison of a column as it is written. -/
def compare (filter : Filter) (column : String) (comparison : Comparison) (value : Value) :
    Filter :=
  filter ++ [⟨column, comparison, value⟩]

end Filter
end TableAccess
