import TableAccess.Refusal
import TableAccess.Text.Blank

/-!
# SQL fragments

A fragment is structural SQL text from a caller: a column expression, a join condition, an
ordering term. It becomes part of a statement as it is, so `Fragment.parse` refuses whatever
could end the statement, open a comment, start a literal or close a parenthesis that the
fragment did not open. Parentheses are counted without a bound: a text is taken to have fewer than
2 ^ 31 of them, which is what a counter of 32 bits with a sign holds.
-/

namespace TableAccess

/-- Structural SQL text that has been checked. -/
structure Fragment where
  text : String
  deriving DecidableEq, Repr

namespace Fragment

/-- The characters that no fragment contains. -/
def forbiddenCharacters : List Char :=
  [';', '\x00', '\'', '"', '\x60', '\\', '$']

def forbiddenSequences : List String :=
  ["--", "/*", "*/"]

def occurs (pattern : List Char) : List Char → Bool
  | [] => pattern.isEmpty
  | c :: cs => pattern.isPrefixOf (c :: cs) || occurs pattern cs

/-- How many parentheses stay open behind a text that `depth` of them precede; none if one is
closed that was not open. -/
def depth? : Nat → List Char → Option Nat
  | depth, [] => some depth
  | depth, '(' :: cs => depth? (depth + 1) cs
  | 0, ')' :: _ => none
  | depth + 1, ')' :: cs => depth? depth cs
  | depth, _ :: cs => depth? depth cs

def isBalanced (cs : List Char) : Bool :=
  depth? 0 cs == some 0

/-- Checks text whose outer blanks have been removed. -/
def check (cs : List Char) : Except Refusal Fragment :=
  let text := String.ofList cs
  if cs.isEmpty then .error .emptyFragment
  else
    match cs.find? (forbiddenCharacters.contains ·) with
    | some c => .error (.forbiddenCharacter text c)
    | none =>
      match forbiddenSequences.find? fun sequence => occurs sequence.toList cs with
      | some sequence => .error (.forbiddenSequence text sequence)
      | none => if isBalanced cs then .ok ⟨text⟩ else .error (.unbalancedFragment text)

/-- Reads a fragment; blanks at its ends do not count. -/
def parse (s : String) : Except Refusal Fragment :=
  check (Text.trim s.toList)

end Fragment
end TableAccess
