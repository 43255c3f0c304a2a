import TableAccess.Text.Digits
import TableAccess.Text.Hex

/-!
# Numeric addresses

Which texts are addresses of the Internet Protocol, in either of its versions.
-/

namespace TableAccess.Address

/-- The parts of a text between the places where a character stands. -/
def split (mark : Char) (part : List Char) : List Char → List (List Char)
  | [] => [part]
  | c :: cs => if c = mark then part :: split mark [] cs else split mark (part ++ [c]) cs

/-- A number below 256 without leading zeros. -/
def isOctet (cs : List Char) : Bool :=
  !cs.isEmpty && cs.length ≤ 3 && cs.all Char.isDigit &&
    (cs.length == 1 || cs.head? != some '0') && Text.value cs < 256

/-- Four numbers with dots between them. -/
def isVersion4 (cs : List Char) : Bool :=
  let parts := split '.' [] cs
  parts.length == 4 && parts.all isOctet

/-- One to four hexadecimal digits. -/
def isGroup (cs : List Char) : Bool :=
  !cs.isEmpty && cs.length ≤ 4 && cs.all fun c => (Text.Hex.digit? c).isSome

/-- How many groups the parts make; the last of them may be an address of version four, which
counts as two. -/
def countGroups? : List (List Char) → Option Nat
  | [] => some 0
  | [part] => if isGroup part then some 1 else if isVersion4 part then some 2 else none
  | part :: parts => if isGroup part then (countGroups? parts).map (· + 1) else none

/-- The groups of a text with colons between them; no text makes no group. -/
def groupsOf (cs : List Char) : List (List Char) :=
  if cs.isEmpty then [] else split ':' [] cs

/-- The texts before and behind the first double colon. -/
def splitDouble? (before : List Char) : List Char → Option (List Char × List Char)
  | [] => none
  | ':' :: ':' :: cs => some (before, cs)
  | c :: cs => splitDouble? (before ++ [c]) cs

/-- Eight groups, or fewer with a double colon for those that are missing. -/
def isVersion6 (cs : List Char) : Bool :=
  match splitDouble? [] cs with
  | none => countGroups? (groupsOf cs) == some 8
  | some (before, behind) =>
    (groupsOf before).all isGroup &&
      match countGroups? (groupsOf behind) with
      | some n => (groupsOf before).length + n ≤ 7
      | none => false

def isValid (cs : List Char) : Bool :=
  isVersion4 cs || isVersion6 cs

end TableAccess.Address
