import TableAccess.Json.Basic
import TableAccess.Number.FloatText

/-!
# Numbers in JSON text

An integer of up to 64 bits is kept as it is. Every other number becomes a `Binary64` in two
roundings: the leading digits that fit 64 bits are rounded first, and then their product or
quotient with a rounded power of ten.
-/

namespace TableAccess.Json

/-- A number as it stands in the text. -/
structure Numeral where
  negative : Bool
  whole : List Char
  /-- The digits behind the point, if there is one. -/
  fraction : Option (List Char)
  /-- The sign and digits of the exponent, if there is one. -/
  exponent : Option (Bool × List Char)

namespace Numeral

/-- Leading digits are kept as long as they stay below this bound. -/
def bound : Nat :=
  18446744073709551616

/-- Digits read so far: `leading * 10 ^ exponent`. -/
structure Digits where
  leading : Nat
  exponent : Int

/-- Reads the digits before the point. From the first digit on that does not fit, each only
raises the exponent. -/
def wholeDigits (n : Nat) : List Char → Digits
  | [] => ⟨n, 0⟩
  | c :: cs =>
    let next := 10 * n + Text.digitValue c
    if next < bound then wholeDigits next cs else ⟨n, (c :: cs).length⟩

/-- Reads the digits behind the point, up to the first that does not fit. -/
def fractionDigits (d : Digits) : List Char → Digits
  | [] => d
  | c :: cs =>
    let next := 10 * d.leading + Text.digitValue c
    if next < bound then fractionDigits ⟨next, d.exponent - 1⟩ cs else d

def powerOfTen (n : Nat) : Binary64 :=
  .ofNat (BinaryFormat.double.roundDecimal 1 n)

/-- Divides by ten to the power of 308 as often as the exponent allows, or until nothing is
left. The last argument bounds the number of divisions. -/
def divideDown (x : Binary64) (exponent : Int) : Nat → Binary64
  | 0 => x
  | steps + 1 =>
    if -308 ≤ exponent then x.overMagnitude (powerOfTen exponent.natAbs)
    else if x.bits = 0 then x
    else divideDown (x.overMagnitude (powerOfTen 308)) (exponent + 308) steps

/-- The number nearest to the leading digits, times the rounded power of ten; none if it is too
large. A number of 64 bits is nothing after four divisions. -/
def scaled? (d : Digits) : Option Binary64 :=
  let x := Binary64.ofInt d.leading
  if d.exponent < 0 then some (divideDown x d.exponent 4)
  else if d.exponent ≤ 308 then
    let product := x.timesMagnitude (powerOfTen d.exponent.toNat)
    if product.isFinite then some product else none
  else if d.leading = 0 then some x
  else none

/-- The digits with the exponent of the text; an exponent of more than 31 bits is settled by its
sign. -/
def withExponent? (d : Digits) : Option (Bool × List Char) → Option Binary64
  | none => scaled? d
  | some (negative, digits) =>
    let exponent := Text.value digits
    if 2147483648 ≤ exponent then
      if d.leading = 0 ∨ negative = true then some (.ofNat 0) else none
    else scaled? ⟨d.leading, d.exponent + if negative then -(exponent : Int) else exponent⟩

/-- The number of a numeral that is no integer of 64 bits; none if it is too large. -/
def float? (n : Numeral) : Option Binary64 :=
  let d := fractionDigits (wholeDigits 0 n.whole) (n.fraction.getD [])
  (withExponent? d n.exponent).map fun x => if n.negative then x.negate else x

/-- The value of a numeral; none if it is too large. -/
def toJson? (n : Numeral) : Option Json :=
  let integer := Text.value n.whole
  if n.fraction.isSome ∨ n.exponent.isSome then n.float?.map .float
  else if n.negative = false ∧ integer < bound then some (.int integer)
  else if n.negative = true ∧ integer ≠ 0 ∧ integer ≤ 9223372036854775808 then
    some (.int (-(integer : Int)))
  else n.float?.map .float

end Numeral
end TableAccess.Json
