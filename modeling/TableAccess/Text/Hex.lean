/-!
# Hexadecimal text

Digits are written in lower case and read in either case. `ofBytes` writes two digits a byte
and `toBytes?` reads them back.
-/

namespace TableAccess.Text.Hex

def digit (n : Nat) : Char :=
  if n < 10 then Char.ofNat (48 + n) else Char.ofNat (87 + n)

/-- The number that a digit stands for, in either case. -/
def digit? (c : Char) : Option Nat :=
  if '0' ≤ c ∧ c ≤ '9' then some (c.toNat - 48)
  else if 'a' ≤ c ∧ c ≤ 'f' then some (c.toNat - 87)
  else if 'A' ≤ c ∧ c ≤ 'F' then some (c.toNat - 55)
  else none

/-- The last `width` digits of a number. -/
def padded (width n : Nat) : List Char :=
  (List.range width).reverse.map fun i => digit (n / Nat.pow 16 i % 16)

/-- The digits of a number without leading zeros. -/
def ofNat (n : Nat) : List Char :=
  Nat.toDigits 16 n

def ofByte (b : UInt8) : List Char :=
  [digit (b.toNat / 16), digit (b.toNat % 16)]

def ofBytes (bytes : List UInt8) : List Char :=
  bytes.flatMap ofByte

def toBytes? : List Char → Option (List UInt8)
  | [] => some []
  | [_] => none
  | a :: b :: cs => do
    let high ← digit? a
    let low ← digit? b
    let rest ← toBytes? cs
    return UInt8.ofNat (16 * high + low) :: rest

end TableAccess.Text.Hex
