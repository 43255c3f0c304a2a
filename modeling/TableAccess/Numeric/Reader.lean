import TableAccess.Numeric.Basic

/-!
# Reading decimal numbers

Digits may be grouped by underscores. Decimal places beyond the reach of a coefficient are
rounded away by the first of them; an integer that is too large is refused. An exponent moves
the point of a number that has been read, and rounds once more if that leaves too many places.
-/

namespace TableAccess.Numeric

/-- Whether a character may stand behind the digit that decides the rounding. -/
def continues (c : Char) : Bool :=
  c.isDigit || c == '_'

/-- Rounds by the character behind the last digit kept: five and above go up, and an underscore
counts as zero. What follows it does not count, but is refused if it belongs to no number. -/
def roundBy (coefficient scale : Nat) : List Char → Option (Nat × Nat)
  | [] => some (coefficient, scale)
  | c :: cs =>
    if !(c :: cs).all continues then none
    else if c = '_' ∨ Text.digitValue c < 5 then some (coefficient, scale)
    else if coefficient + 1 < bound then some (coefficient + 1, scale)
    else if scale = 0 then none
    else some ((coefficient + 5) / 10, scale - 1)

/-- From this coefficient on one more digit may need more than 64 bits. -/
def wide : Nat :=
  1844674407370954906

/-- Rounds behind the last decimal place. An underscore is looked past to the digit that decides
if the digits before the last one are already `wide`. -/
def roundLast (coefficient : Nat) (cs : List Char) : Option (Nat × Nat) :=
  roundBy coefficient maxScale
    (if wide ≤ coefficient / 10 then cs.dropWhile (· == '_') else cs)

/-- Reads digits behind the number `coefficient / 10 ^ scale`; `point` tells whether the point
has been read and `seen` whether any digit has. -/
def readDigits (point seen : Bool) (coefficient scale : Nat) : List Char → Option (Nat × Nat)
  | [] => if seen then some (coefficient, scale) else none
  | c :: cs =>
    if point && scale == maxScale then roundLast coefficient (c :: cs)
    else if c.isDigit then
      let next := 10 * coefficient + Text.digitValue c
      if next < bound then readDigits point true next (if point then scale + 1 else scale) cs
      else if point then roundBy coefficient scale (c :: cs)
      else none
    else if c = '.' ∧ point = false then readDigits true seen coefficient scale cs
    else if c = '_' ∧ seen = true then readDigits point seen coefficient scale cs
    else none

/-- Reads a number without an exponent. -/
def parsePlain? (cs : List Char) : Option Numeric :=
  let (negative, cs) := match cs with
    | '-' :: cs => (true, cs)
    | '+' :: cs => (false, cs)
    | cs => (false, cs)
  (readDigits false false 0 0 cs).bind fun (coefficient, scale) =>
    unsignedZero? negative coefficient scale

/-- Reads the digits of an exponent, which may have a plus sign before them. -/
def exponent? (cs : List Char) : Option Nat :=
  let digits := match cs with
    | '+' :: cs => cs
    | cs => cs
  if digits.isEmpty || !digits.all Char.isDigit then none
  else
    let n := Text.value digits
    if n ≤ maxScale then some n else none

/-- The number with its point moved to the left and rounded to the places there may be. -/
def shiftLeft? (x : Numeric) (places : Nat) : Option Numeric :=
  let scale := x.scale + places
  of? x.negative (roundPlaces x.coefficient (scale - maxScale)) (min scale maxScale)

/-- The number with its point moved to the right. -/
def shiftRight? (x : Numeric) (places : Nat) : Option Numeric :=
  if places ≤ x.scale then of? x.negative x.coefficient (x.scale - places)
  else of? x.negative (x.coefficient * Nat.pow 10 (places - x.scale)) 0

/-- Reads a number, with an exponent behind the letter `e` if there is one. -/
def parse? (cs : List Char) : Option Numeric := do
  let isMark := fun c => c == 'e' || c == 'E'
  let base := cs.takeWhile (!isMark ·)
  let x ← parsePlain? base
  match cs.drop base.length with
  | [] => return x
  | _ :: '-' :: cs => shiftLeft? x (← exponent? cs)
  | _ :: cs => shiftRight? x (← exponent? cs)

end TableAccess.Numeric
