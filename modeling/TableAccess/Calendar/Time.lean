import TableAccess.Text.Digits

/-!
# Times of day

A time of day to the nanosecond. Any minute may end in a leap second, whose number is 60.
-/

namespace TableAccess

/-- A time of day that a clock can show. -/
abbrev Time.IsValid (hour minute second nano : Nat) : Prop :=
  hour < 24 ∧ minute < 60 ∧ second ≤ 60 ∧ nano < 1000000000

/-- A time of day. -/
structure Time where
  hour : Nat
  minute : Nat
  second : Nat
  nano : Nat
  valid : Time.IsValid hour minute second nano
  deriving DecidableEq, Repr

namespace Time

/-- The time with the given parts, if a clock can show it. -/
def of? (hour minute second nano : Nat) : Option Time :=
  if h : IsValid hour minute second nano then some ⟨hour, minute, second, nano, h⟩ else none

/-- The seconds since midnight; a leap second counts as the second after it. -/
def seconds (t : Time) : Nat :=
  3600 * t.hour + 60 * t.minute + t.second

/-- A fraction of a second with as many groups of three digits as it needs. -/
def fractionText (nano : Nat) : List Char :=
  if nano = 0 then []
  else if nano % 1000000 = 0 then '.' :: Text.padded 3 (nano / 1000000)
  else if nano % 1000 = 0 then '.' :: Text.padded 6 (nano / 1000)
  else '.' :: Text.padded 9 nano

def chars (t : Time) : List Char :=
  Text.padded 2 t.hour ++ ':' :: Text.padded 2 t.minute ++ ':' :: Text.padded 2 t.second ++
    fractionText t.nano

end Time
end TableAccess
