import TableAccess.Text.Digits

/-!
# Decimal numbers

A `Numeric` is a signed coefficient of at most 96 bits with up to 28 decimal places. The places
are kept: `1.0` and `1.00` are written differently although they are the same number.
-/

namespace TableAccess

namespace Numeric

/-- Every coefficient is below this bound, the number 2 ^ 96. -/
def bound : Nat :=
  79228162514264337593543950336

/-- No number has more decimal places. -/
def maxScale : Nat :=
  28

abbrev Fits (coefficient scale : Nat) : Prop :=
  coefficient < bound ∧ scale ≤ maxScale

end Numeric

/-- The decimal number `coefficient / 10 ^ scale` with a sign. -/
structure Numeric where
  negative : Bool
  coefficient : Nat
  scale : Nat
  fits : Numeric.Fits coefficient scale
  deriving DecidableEq, Repr

namespace Numeric

/-- The number with the given parts, if they are within their bounds. -/
def of? (negative : Bool) (coefficient scale : Nat) : Option Numeric :=
  if h : Fits coefficient scale then some ⟨negative, coefficient, scale, h⟩ else none

/-- The number with the given parts, where zero has no sign. -/
def unsignedZero? (negative : Bool) (coefficient scale : Nat) : Option Numeric :=
  of? (negative && coefficient != 0) coefficient scale

/-- An integer as a decimal number without decimal places. -/
def ofInt? (n : Int) : Option Numeric :=
  of? (n < 0) n.natAbs 0

/-- A coefficient without its last `places` digits; half of the last place kept goes up. -/
def roundPlaces (n places : Nat) : Nat :=
  (2 * n + Nat.pow 10 places) / (2 * Nat.pow 10 places)

/-- Equality as numbers, whatever the decimal places. -/
def same (x y : Numeric) : Bool :=
  x.coefficient * Nat.pow 10 y.scale == y.coefficient * Nat.pow 10 x.scale &&
    (x.negative == y.negative || x.coefficient == 0)

/-- A number with all its decimal places. -/
def chars (x : Numeric) : List Char :=
  let digits := Text.padded (x.scale + 1) x.coefficient
  let whole := digits.length - x.scale
  (if x.negative then ['-'] else []) ++ digits.take whole ++
    if x.scale = 0 then [] else '.' :: digits.drop whole

def text (x : Numeric) : String :=
  String.ofList x.chars

end Numeric
end TableAccess
