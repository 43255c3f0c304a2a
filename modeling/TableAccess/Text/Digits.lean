/-!
# Decimal digits

Numbers are written with ASCII digits; `padded` adds leading zeros and `value` reads a run of
digits back.
-/

namespace TableAccess.Text

def decimal (n : Nat) : List Char :=
  Nat.toDigits 10 n

/-- A number in decimal with leading zeros up to `width` digits. -/
def padded (width n : Nat) : List Char :=
  List.replicate (width - (decimal n).length) '0' ++ decimal n

def digitValue (c : Char) : Nat :=
  c.toNat - 48

def value (cs : List Char) : Nat :=
  cs.foldl (fun n c => 10 * n + digitValue c) 0

def trimZeros (cs : List Char) : List Char :=
  (cs.reverse.dropWhile (· == '0')).reverse

theorem toList_toString (n : Nat) : (toString n).toList = decimal n := by
  rw [Nat.toString_eq_repr, Nat.toList_repr]
  rfl

theorem isDigit_of_mem_decimal {n : Nat} {c : Char} (h : c ∈ decimal n) : c.isDigit = true :=
  Nat.isDigit_of_mem_toDigits (by decide) (by decide) h

theorem value_decimal (n : Nat) : value (decimal n) = n :=
  Nat.ofDigitChars_toDigits (by decide) (by decide)

end TableAccess.Text
