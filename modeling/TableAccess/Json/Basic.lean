import TableAccess.Entries
import TableAccess.Number.Binary

/-!
# JSON values

The members of an object keep their order and integers are told apart from numbers with a
fraction or an exponent.
-/

namespace TableAccess

/-- A JSON value. -/
inductive Json where
  | null
  | bool (b : Bool)
  | int (n : Int)
  | float (x : Binary64)
  | string (s : String)
  | array (items : List Json)
  | object (members : List (String × Json))

namespace Json

mutual

/-- Equality of values, where the order of the members of an object does not count. -/
def same : Json → Json → Bool
  | null, null => true
  | bool a, bool b => a == b
  | int m, int n => m == n
  | float x, float y => x.same y
  | string s, string t => s == t
  | array xs, array ys => sameItems xs ys
  | object xs, object ys => xs.length == ys.length && sameMembers xs ys
  | _, _ => false

def sameItems : List Json → List Json → Bool
  | [], [] => true
  | x :: xs, y :: ys => same x y && sameItems xs ys
  | _, _ => false

/-- Each member of the first object has an equal one under the same key in the second. -/
def sameMembers : List (String × Json) → List (String × Json) → Bool
  | [], _ => true
  | (key, x) :: xs, ys =>
    (match Entries.get? key ys with
      | some y => same x y
      | none => false) && sameMembers xs ys

end

end Json
end TableAccess
