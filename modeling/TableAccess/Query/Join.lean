import TableAccess.Refusal
import TableAccess.Text.Blank

/-!
# Joins
-/

namespace TableAccess

/-- The ways to join a table. -/
inductive Join.Kind where
  /-- The bare word, which PostgreSQL takes for an inner join. -/
  | plain
  | inner
  | left
  | right
  | full
  deriving DecidableEq, Repr

namespace Join.Kind

def sql : Join.Kind → String
  | plain => "JOIN"
  | inner => "INNER JOIN"
  | left => "LEFT JOIN"
  | right => "RIGHT JOIN"
  | full => "FULL OUTER JOIN"

def names : List (List String × Join.Kind) :=
  [([], plain), (["inner"], inner), (["left"], left), (["left", "outer"], left),
    (["right"], right), (["right", "outer"], right), (["full"], full), (["outer"], full),
    (["full", "outer"], full)]

/-- Reads the name of a join; blanks and the case of letters do not count. -/
def parse (s : String) : Except Refusal Join.Kind :=
  let words := (Text.words s.toList).map fun word => String.ofList (Text.lower word)
  match names.find? fun (name, _) => name = words with
  | some (_, kind) => .ok kind
  | none => .error (.unknownJoin s)

end Join.Kind

/-- A joined table and the condition of the join. -/
structure Join where
  table : String
  condition : String
  kind : Join.Kind
  deriving DecidableEq, Repr

end TableAccess
