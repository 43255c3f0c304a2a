import TableAccess.Text.Blank
import TableAccess.Text.Hex

/-!
# UUIDs

Sixteen octets, written as five groups of lower-case digits with dashes between them.
`Uuid.parse?` also reads the digits without dashes, the written form in braces and the written
form behind the `urn:uuid:` of a name.
-/

namespace TableAccess

/-- A universally unique identifier. -/
structure Uuid where
  octets : List UInt8
  size : octets.length = 16
  deriving DecidableEq, Repr

namespace Uuid

/-- The identifier with the given octets, if there are sixteen of them. -/
def of? (octets : List UInt8) : Option Uuid :=
  if h : octets.length = 16 then some ⟨octets, h⟩ else none

/-- The number of digits in each group. -/
def groupSizes : List Nat :=
  [8, 4, 4, 4, 12]

def dashed : List Nat → List Char → List Char
  | [], _ => []
  | [_], digits => digits
  | n :: sizes, digits => digits.take n ++ '-' :: dashed sizes (digits.drop n)

def undashed? : List Nat → List Char → Option (List Char)
  | [], _ => none
  | [n], cs => if cs.length = n then some cs else none
  | n :: sizes, cs =>
    match cs.drop n with
    | '-' :: rest => (undashed? sizes rest).map (cs.take n ++ ·)
    | _ => none

def chars (u : Uuid) : List Char :=
  dashed groupSizes (Text.Hex.ofBytes u.octets)

def text (u : Uuid) : String :=
  String.ofList u.chars

/-- Reads digits without dashes. -/
def ofDigits? (cs : List Char) : Option Uuid :=
  (Text.Hex.toBytes? cs).bind of?

def ofGroups? (cs : List Char) : Option Uuid :=
  (undashed? groupSizes cs).bind ofDigits?

/-- The letters that mark a name. -/
def nameMark : List Char :=
  "urn:uuid:".toList

def parse? (cs : List Char) : Option Uuid :=
  if cs.length = 32 then ofDigits? cs
  else if cs.length = 36 then ofGroups? cs
  else if cs.length = 38 then
    if cs.head? = some '\x7b' ∧ cs.getLast? = some '\x7d' then ofGroups? (cs.drop 1).dropLast
    else none
  else if cs.length = 45 then
    if Text.lower (cs.take 9) = nameMark then ofGroups? (cs.drop 9) else none
  else none

end Uuid
end TableAccess
