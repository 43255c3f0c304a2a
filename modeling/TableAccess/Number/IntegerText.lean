import TableAccess.Text.Digits

/-!
# Integers of fixed width

`IntegerWidth` gives the ranges of the integer column types. `IntegerWidth.parse` reads decimal
text and `IntegerWidth.bytes` writes big-endian two's complement; neither wraps.
-/

namespace TableAccess

/-- The number of bytes of an integer. -/
inductive IntegerWidth where
  | two
  | four
  | eight
  deriving DecidableEq, Repr

/-- Why a text or a number is no integer of a width. -/
inductive IntegerFault where
  | empty
  | badDigit
  | tooLarge
  | tooSmall
  deriving DecidableEq, Repr

namespace IntegerFault

def message : IntegerFault → String
  | empty => "cannot parse integer from empty string"
  | badDigit => "invalid digit found in string"
  | tooLarge => "number too large to fit in target type"
  | tooSmall => "number too small to fit in target type"

end IntegerFault

/-- The big-endian bytes of a number, `count` of them. -/
def bigEndian (count n : Nat) : List UInt8 :=
  (List.range count).reverse.map fun i => UInt8.ofNat (n / Nat.pow 256 i)

def ofBigEndian (bytes : List UInt8) : Nat :=
  bytes.foldl (fun n b => 256 * n + b.toNat) 0

namespace IntegerWidth

/-- How many bytes the width has. -/
def size : IntegerWidth → Nat
  | two => 2
  | four => 4
  | eight => 8

/-- The number of negative integers of the width. -/
def half (w : IntegerWidth) : Nat :=
  Nat.pow 2 (8 * w.size - 1)

/-- Accepts the integers of the width. -/
def check (w : IntegerWidth) (n : Int) : Except IntegerFault Int :=
  if n < -w.half then .error .tooSmall
  else if (w.half : Int) ≤ n then .error .tooLarge
  else .ok n

/-- Two's complement of a number in range, in big-endian order. -/
def bytes (w : IntegerWidth) (n : Int) : List UInt8 :=
  bigEndian w.size (n % (2 * w.half)).toNat

/-- The integer with the given bytes in two's complement. -/
def ofBytes (w : IntegerWidth) (bytes : List UInt8) : Int :=
  let n := ofBigEndian bytes
  if n < w.half then n else n - 2 * w.half

/-- Reads digits behind the number `n`, adding or subtracting each; the first digit that cannot
be read or does not fit is reported. -/
def readDigits (w : IntegerWidth) (negative : Bool) (n : Int) :
    List Char → Except IntegerFault Int
  | [] => .ok n
  | c :: cs =>
    if c.isDigit then do
      let digit : Int := Text.digitValue c
      let n ← w.check (10 * n + if negative then -digit else digit)
      readDigits w negative n cs
    else .error .badDigit

/-- Reads the digits behind a sign; there must be one at least. -/
def readSigned (w : IntegerWidth) (negative : Bool) (cs : List Char) : Except IntegerFault Int :=
  if cs.isEmpty then .error .badDigit else w.readDigits negative 0 cs

def parse (w : IntegerWidth) : List Char → Except IntegerFault Int
  | [] => .error .empty
  | '-' :: cs => w.readSigned true cs
  | '+' :: cs => w.readSigned false cs
  | cs => w.readSigned false cs

end IntegerWidth
end TableAccess
