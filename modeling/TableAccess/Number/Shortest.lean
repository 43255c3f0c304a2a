import TableAccess.Number.Binary

/-!
# Shortest decimal digits

`shortest` gives the fewest decimal digits that are read back as a given binary number: of the
decimals with that many digits the one nearest to the number.
-/

namespace TableAccess

/-- Which of two decimals at the same distance is taken. -/
inductive Tie where
  | toEven
  | up
  deriving DecidableEq, Repr

/-- The number `coefficient * 10 ^ exponent`. -/
structure DecimalDigits where
  coefficient : Nat
  exponent : Int
  deriving DecidableEq, Repr

namespace Shortest

/-- Compares `c * 10 ^ q` with `t * 2 ^ e`. -/
def compareScaled (c : Nat) (q : Int) (t : Nat) (e : Int) : Ordering :=
  compare (c * Nat.pow 10 q.toNat * Nat.pow 2 (-e).toNat)
    (t * Nat.pow 2 e.toNat * Nat.pow 10 (-q).toNat)

/-- The decimals that are read back as one number: those between `low * 2 ^ exponent` and
`high * 2 ^ exponent`, the ends included if `closed`. -/
structure Interval where
  low : Nat
  middle : Nat
  high : Nat
  exponent : Int
  closed : Bool

/-- The interval of decimals that are rounded to `significand * 2 ^ exponent`. Below a power of
two the neighbour is nearer. -/
def interval (f : BinaryFormat) (significand : Nat) (exponent : Int) : Interval where
  low :=
    if significand = f.hiddenBit ∧ f.leastExponent < exponent then 4 * significand - 1
    else 4 * significand - 2
  middle := 4 * significand
  high := 4 * significand + 2
  exponent := exponent - 2
  closed := significand % 2 = 0

def Interval.contains (i : Interval) (c : Nat) (q : Int) : Bool :=
  match compareScaled c q i.low i.exponent, compareScaled c q i.high i.exponent with
  | .gt, .lt => true
  | .eq, _ | _, .eq => i.closed
  | _, _ => false

/-- The power of ten above a positive ratio: the least `k` with the ratio below `10 ^ k`. -/
def pointOf (numerator denominator : Nat) : Int :=
  let whole := numerator / denominator
  if whole = 0 then
    match (List.range 400).find? fun k => denominator ≤ numerator * Nat.pow 10 (k + 1) with
    | some k => -(k : Int)
    | none => -400
  else (Nat.toDigits 10 whole).length

/-- The decimal next to the middle of the interval among those with `10 ^ q` as their unit, if
one of its two neighbours lies in the interval. -/
def onGrid (tie : Tie) (i : Interval) (q : Int) : Option DecimalDigits :=
  let below := i.middle * Nat.pow 2 i.exponent.toNat * Nat.pow 10 (-q).toNat /
    (Nat.pow 2 (-i.exponent).toNat * Nat.pow 10 q.toNat)
  let above := below + 1
  match i.contains below q, i.contains above q with
  | true, false => some ⟨below, q⟩
  | false, true => some ⟨above, q⟩
  | false, false => none
  | true, true =>
    match compareScaled (below + above) q (2 * i.middle) i.exponent with
    | .gt => some ⟨below, q⟩
    | .lt => some ⟨above, q⟩
    | .eq => if tie = .toEven ∧ below % 2 = 0 then some ⟨below, q⟩ else some ⟨above, q⟩

/-- Moves zeros at the end of the coefficient into the exponent. -/
def normalize (d : DecimalDigits) : DecimalDigits :=
  let zeros := (Nat.toDigits 10 d.coefficient).reverse.takeWhile (· == '0')
  if d.coefficient = 0 then d
  else ⟨d.coefficient / Nat.pow 10 zeros.length, d.exponent + zeros.length⟩

end Shortest

/-- The fewest digits that are read back as the positive number `significand * 2 ^ exponent`;
no format needs more than seventeen. -/
def shortest (f : BinaryFormat) (tie : Tie) (significand : Nat) (exponent : Int) :
    DecimalDigits :=
  let i := Shortest.interval f significand exponent
  let point := Shortest.pointOf (significand * Nat.pow 2 exponent.toNat)
    (Nat.pow 2 (-exponent).toNat)
  let found := (List.range 17).findSome? fun (n : Nat) => Shortest.onGrid tie i (point - n - 1)
  Shortest.normalize (found.getD ⟨0, 0⟩)

end TableAccess
