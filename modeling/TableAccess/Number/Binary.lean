/-!
# Binary floating-point numbers

A `BinaryFormat` is an interchange format of IEEE 754. `datum` says which number a pattern of
bits stands for and `round` gives the pattern nearest to an exact ratio; every conversion in
this library goes through these two.
-/

namespace TableAccess

/-- What a pattern of bits stands for. -/
inductive Datum where
  /-- No number; the payload tells such patterns apart. -/
  | nan (negative : Bool) (payload : Nat)
  | infinite (negative : Bool)
  /-- The number `significand * 2 ^ exponent` with a sign. -/
  | finite (negative : Bool) (significand : Nat) (exponent : Int)
  deriving DecidableEq, Repr

/-- The widths of an interchange format, in bits. -/
structure BinaryFormat where
  /-- The digits of a significand, the leading one included. -/
  precision : Nat
  exponentBits : Nat

namespace BinaryFormat

def single : BinaryFormat := ⟨24, 8⟩

def double : BinaryFormat := ⟨53, 11⟩

/-- The weight of the leading digit of a significand. -/
def hiddenBit (f : BinaryFormat) : Nat :=
  Nat.pow 2 (f.precision - 1)

/-- The largest field of an exponent. -/
def maxField (f : BinaryFormat) : Nat :=
  Nat.pow 2 f.exponentBits - 1

def leastExponent (f : BinaryFormat) : Int :=
  3 - Nat.pow 2 (f.exponentBits - 1) - f.precision

def infinity (f : BinaryFormat) : Nat :=
  f.maxField * f.hiddenBit

def signBit (f : BinaryFormat) : Nat :=
  (f.maxField + 1) * f.hiddenBit

def withSign (f : BinaryFormat) (negative : Bool) (bits : Nat) : Nat :=
  if negative then f.signBit + bits else bits

def datum (f : BinaryFormat) (bits : Nat) : Datum :=
  let negative := f.signBit ≤ bits
  let fraction := bits % f.hiddenBit
  let exponent := bits / f.hiddenBit % (f.maxField + 1)
  if exponent = f.maxField then
    if fraction = 0 then .infinite negative else .nan negative fraction
  else if exponent = 0 then .finite negative fraction f.leastExponent
  else .finite negative (fraction + f.hiddenBit) (f.leastExponent + exponent - 1)

/-- A ratio divided by a power of two. -/
def scaleDown (numerator denominator : Nat) (exponent : Int) : Nat × Nat :=
  (numerator * Nat.pow 2 (-exponent).toNat, denominator * Nat.pow 2 exponent.toNat)

/-- The exponent at which a ratio has as many digits before the point as a significand, but not
below the least exponent. -/
def exponentOf (f : BinaryFormat) (numerator denominator : Nat) : Int :=
  let guess := (numerator.log2 : Int) - denominator.log2 - f.precision + 1
  let (n, d) := scaleDown numerator denominator guess
  let exponent := if n < d * f.hiddenBit then guess - 1 else guess
  max exponent f.leastExponent

/-- The integer nearest to a ratio; a tie goes to the even one. -/
def nearest (numerator denominator : Nat) : Nat :=
  let quotient := numerator / denominator
  let twice := 2 * (numerator % denominator)
  if denominator < twice ∨ twice = denominator ∧ quotient % 2 = 1 then quotient + 1 else quotient

/-- The pattern of the number nearest to a ratio; a tie goes to the even significand, and what
is too large becomes infinity. -/
def round (f : BinaryFormat) (numerator denominator : Nat) : Nat :=
  if numerator = 0 then 0
  else
    let exponent := f.exponentOf numerator denominator
    let (n, d) := scaleDown numerator denominator exponent
    min f.infinity ((exponent - f.leastExponent).toNat * f.hiddenBit + nearest n d)

/-- The pattern of the number nearest to `significand * 2 ^ exponent`. -/
def roundBinary (f : BinaryFormat) (significand : Nat) (exponent : Int) : Nat :=
  f.round (significand * Nat.pow 2 exponent.toNat) (Nat.pow 2 (-exponent).toNat)

/-- The pattern of the number nearest to `coefficient * 10 ^ exponent`. Exponents that are out
of reach of every format are settled without computing the power. -/
def roundDecimal (f : BinaryFormat) (coefficient : Nat) (exponent : Int) : Nat :=
  let magnitude := exponent + (coefficient.log2 : Int)
  if coefficient = 0 then 0
  else if 400 < exponent then f.infinity
  else if magnitude < -2000 then 0
  else f.round (coefficient * Nat.pow 10 exponent.toNat) (Nat.pow 10 (-exponent).toNat)

/-- The quiet pattern without a number that keeps the leading bits of a payload of `width`
bits. -/
def quietNan (f : BinaryFormat) (negative : Bool) (width payload : Nat) : Nat :=
  let quiet := f.hiddenBit / 2
  let leading := payload * f.hiddenBit / Nat.pow 2 width % quiet
  f.withSign negative (f.infinity + quiet + leading)

/-- The pattern of one format that is nearest to a datum of another. -/
def convert (source target : BinaryFormat) : Datum → Nat
  | .nan negative payload => target.quietNan negative (source.precision - 1) payload
  | .infinite negative => target.withSign negative target.infinity
  | .finite negative significand exponent =>
    target.withSign negative (target.roundBinary significand exponent)

def ofInt (f : BinaryFormat) (n : Int) : Nat :=
  f.withSign (n < 0) (f.round n.natAbs 1)

end BinaryFormat

/-- A number in single precision. -/
structure Binary32 where
  bits : UInt32
  deriving DecidableEq, Repr

/-- A number in double precision. -/
structure Binary64 where
  bits : UInt64
  deriving DecidableEq, Repr

namespace Binary32

def datum (x : Binary32) : Datum :=
  BinaryFormat.single.datum x.bits.toNat

def ofNat (bits : Nat) : Binary32 :=
  ⟨UInt32.ofNat bits⟩

def ofInt (n : Int) : Binary32 :=
  ofNat (BinaryFormat.single.ofInt n)

def widen (x : Binary32) : Binary64 :=
  ⟨UInt64.ofNat (BinaryFormat.convert .single .double x.datum)⟩

end Binary32

namespace Binary64

def datum (x : Binary64) : Datum :=
  BinaryFormat.double.datum x.bits.toNat

def ofNat (bits : Nat) : Binary64 :=
  ⟨UInt64.ofNat bits⟩

def ofInt (n : Int) : Binary64 :=
  ofNat (BinaryFormat.double.ofInt n)

def narrow (x : Binary64) : Binary32 :=
  .ofNat (BinaryFormat.convert .double .single x.datum)

def isNan (x : Binary64) : Bool :=
  match x.datum with
  | .nan .. => true
  | _ => false

def isFinite (x : Binary64) : Bool :=
  match x.datum with
  | .finite .. => true
  | _ => false

/-- Equality as numbers: what is no number equals nothing, and the zeros are equal. -/
def same (x y : Binary64) : Bool :=
  match x.datum, y.datum with
  | .nan .., _ | _, .nan .. => false
  | .finite _ 0 _, .finite _ 0 _ => true
  | _, _ => x.bits == y.bits

def negate (x : Binary64) : Binary64 :=
  ⟨x.bits ^^^ 0x8000000000000000⟩

/-- The nearest number to the product of two magnitudes. -/
def timesMagnitude (x y : Binary64) : Binary64 :=
  match x.datum, y.datum with
  | .finite _ m e, .finite _ n d => ofNat (BinaryFormat.double.roundBinary (m * n) (e + d))
  | _, _ => ofNat BinaryFormat.double.infinity

/-- The nearest number to the quotient of two magnitudes. -/
def overMagnitude (x y : Binary64) : Binary64 :=
  match x.datum, y.datum with
  | .finite _ m e, .finite _ n d =>
    let exponent := e - d
    ofNat (BinaryFormat.double.round (m * Nat.pow 2 exponent.toNat)
      (n * Nat.pow 2 (-exponent).toNat))
  | _, _ => ofNat BinaryFormat.double.infinity

end Binary64
end TableAccess
