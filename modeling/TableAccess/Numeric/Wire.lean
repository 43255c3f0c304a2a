import TableAccess.Number.IntegerText
import TableAccess.Numeric.Basic

/-!
# Binary form of decimal numbers

A NUMERIC cell holds groups of four decimal digits, the power of ten thousand of the first
group, the sign and the number of decimal places. Reading adds the groups up within 96 bits and
then keeps as many decimal places as the cell asks for.
-/

namespace TableAccess.Numeric

/-- The groups of four digits of a number, the most significant first; leading zeros make no
group. Nine groups hold every coefficient with up to three zeros behind it. -/
def groups (n : Nat) : List Nat :=
  ((List.range 9).reverse.map fun i => n / Nat.pow 10000 i % 10000).dropWhile (· == 0)

def trimGroups (groups : List Nat) : List Nat :=
  (groups.reverse.dropWhile (· == 0)).reverse

def word (n : Nat) : List UInt8 :=
  bigEndian 2 n

def bytes (x : Numeric) : List UInt8 :=
  if x.coefficient = 0 then List.replicate 8 0
  else
    let all := groups (x.coefficient * Nat.pow 10 ((4 - x.scale % 4) % 4))
    let behindPoint := (x.scale + 3) / 4
    let whole := all.length - behindPoint
    let kept :=
      if behindPoint < all.length then all.take whole ++ trimGroups (all.drop whole) else all
    let weight : Int := (all.length : Int) - behindPoint - 1
    word kept.length ++ word (weight % 65536).toNat ++ word (if x.negative then 0x4000 else 0) ++
      word x.scale ++ kept.flatMap word

/-- Pairs of bytes as numbers; an odd byte at the end does not count. -/
def words : List UInt8 → List Nat
  | a :: b :: bytes => (256 * a.toNat + b.toNat) :: words bytes
  | _ => []

/-- A coefficient and a scale while a cell is read. -/
abbrev Sum := Nat × Nat

/-- Half of the last place goes to the even neighbour. -/
def dropPlaces (n places : Nat) : Nat :=
  let unit := Nat.pow 10 places
  let quotient := n / unit
  let twice := 2 * (n % unit)
  if unit < twice ∨ twice = unit ∧ quotient % 2 = 1 then quotient + 1 else quotient

/-- Gives up as few decimal places as a coefficient within the bound needs. -/
def fit? (n scale : Nat) : Option Sum :=
  (List.range (scale + 1)).findSome? fun places =>
    let kept := dropPlaces n places
    if kept < bound then some (kept, scale - places) else none

def add? : Sum → Sum → Option Sum
  | (m, s), (n, t) =>
    let scale := max s t
    fit? (m * Nat.pow 10 (scale - s) + n * Nat.pow 10 (scale - t)) scale

/-- A group of digits at the place of its last one, without zeros at its end. -/
def groupSum (group place : Nat) : Sum :=
  let zeros := (Text.decimal group).reverse.takeWhile (· == '0')
  (group / Nat.pow 10 zeros.length, place - zeros.length)

/-- Adds the groups behind the point, the first of which is the `k`-th. Those beyond 28 places
only round. -/
def addFraction? (sum : Sum) (k : Nat) : List Nat → Option Sum
  | [] => some sum
  | group :: rest => do
    let sum ←
      if group = 0 then some sum
      else if k ≤ 7 then add? sum (groupSum group (4 * k))
      else if k = 8 ∧ 5000 ≤ group then add? sum (1, maxScale)
      else some sum
    addFraction? sum (k + 1) rest

/-- The groups before the point as a number, with the groups of zeros that are left out. -/
def whole? (groups : List Nat) (missing : Nat) : Option Nat :=
  let n := groups.foldl (fun n group => 10000 * n + group) 0
  let shifted := n * Nat.pow 10000 missing
  if missing ≤ 7 ∧ shifted < bound then some shifted else none

/-- Adds up groups of which the first has the given weight. -/
def sumGroups? (groups : List Nat) (weight : Int) : Option Sum := do
  let before := (weight + 1).toNat
  let n ← whole? (groups.take before) (before - groups.length)
  addFraction? (n, 0) ((-weight).toNat + if 0 ≤ weight then 1 else 0) (groups.drop before)

/-- Changes the number of decimal places; half of the last place goes up in magnitude, and
places that would not fit are not added. -/
def rescale (sum : Sum) (target : Nat) : Sum :=
  let (n, scale) := sum
  if n = 0 then (0, target)
  else if target < scale then (roundPlaces n (scale - target), target)
  else
    let room :=
      (List.range (target - scale + 1)).reverse.find? fun k => n * Nat.pow 10 k < bound
    let places := room.getD 0
    (n * Nat.pow 10 places, scale + places)

/-- The number of a cell; what is no number, is infinite or does not fit has none. -/
def ofBytes? (cell : List UInt8) : Option Numeric :=
  match words cell with
  | count :: weight :: sign :: scale :: groups => do
    let weight : Int := if weight < 32768 then weight else weight - 65536
    if groups.length < count ∨ 0xC000 ≤ sign then none
    else
      let sum ← sumGroups? (groups.take count) weight
      let (n, places) := rescale sum (min scale maxScale)
      of? (sign == 0x4000) n places
  | _ => none

end TableAccess.Numeric
