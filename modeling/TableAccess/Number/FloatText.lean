import TableAccess.Number.Shortest
import TableAccess.Text.Blank
import TableAccess.Text.Digits

/-!
# Text of floating-point numbers

`Binary64.text` writes a number in a `FloatStyle` with the fewest digits that are read back.
`FloatLiteral.parse` reads a literal exactly; rounding it is left to the format it is read for.
-/

namespace TableAccess

open Text (decimal)

/-- How floating-point numbers are written. -/
structure FloatStyle where
  /-- Whether a number whose point stands after this many digits is written without an
  exponent. -/
  positional : Int → Bool
  /-- Whole numbers keep a point and a zero. -/
  wholePoint : Bool
  tie : Tie
  nan : String
  infinity : String
  minusInfinity : String

namespace FloatStyle

/-- The style for people: never an exponent, no needless point. -/
def plain : FloatStyle where
  positional _ := true
  wholePoint := false
  tie := .up
  nan := "NaN"
  infinity := "inf"
  minusInfinity := "-inf"

/-- The style of JSON numbers: an exponent from `1e+16` on and below `0.00001`. What is no finite
number is null. -/
def json : FloatStyle where
  positional point := -5 < point ∧ point ≤ 16
  wholePoint := true
  tie := .toEven
  nan := "null"
  infinity := "null"
  minusInfinity := "null"

/-- Digits with the point after `point` of them. -/
def positionalText (style : FloatStyle) (digits : List Char) (point : Int) : List Char :=
  if point ≤ 0 then ['0', '.'] ++ List.replicate (-point).toNat '0' ++ digits
  else if (digits.length : Int) ≤ point then
    digits ++ List.replicate (point.toNat - digits.length) '0' ++
      if style.wholePoint then ['.', '0'] else []
  else digits.take point.toNat ++ '.' :: digits.drop point.toNat

/-- Digits with one of them before the point and an exponent. -/
def exponentText (digits : List Char) (point : Int) : List Char :=
  let exponent := point - 1
  digits.take 1 ++ (if digits.length ≤ 1 then [] else '.' :: digits.drop 1) ++
    ['e', if exponent < 0 then '-' else '+'] ++ decimal exponent.natAbs

def finiteText (style : FloatStyle) (f : BinaryFormat) (negative : Bool) (significand : Nat)
    (exponent : Int) : List Char :=
  let sign := if negative then ['-'] else []
  if significand = 0 then sign ++ if style.wholePoint then ['0', '.', '0'] else ['0']
  else
    let d := shortest f style.tie significand exponent
    let digits := decimal d.coefficient
    let point := d.exponent + digits.length
    sign ++
      if style.positional point then style.positionalText digits point
      else exponentText digits point

end FloatStyle

/-- A number in double precision with the fewest digits that are read back. -/
def Binary64.text (style : FloatStyle) (x : Binary64) : String :=
  match x.datum with
  | .nan .. => style.nan
  | .infinite false => style.infinity
  | .infinite true => style.minusInfinity
  | .finite negative significand exponent =>
    String.ofList (style.finiteText .double negative significand exponent)

/-- What a literal of a floating-point number says, before it is rounded. -/
inductive FloatLiteral where
  | nan (negative : Bool)
  | infinite (negative : Bool)
  /-- The number `coefficient * 10 ^ exponent` with a sign. -/
  | finite (negative : Bool) (coefficient : Nat) (exponent : Int)
  deriving DecidableEq, Repr

/-- Why a text is no floating-point number. -/
inductive FloatFault where
  | empty
  | malformed
  deriving DecidableEq, Repr

namespace FloatFault

def message : FloatFault → String
  | empty => "cannot parse float from empty string"
  | malformed => "invalid float literal"

end FloatFault

namespace FloatLiteral

def digits (cs : List Char) : List Char × List Char :=
  (cs.takeWhile Char.isDigit, cs.dropWhile Char.isDigit)

def exponent? (cs : List Char) : Option Int :=
  let (negative, cs) := match cs with
    | '-' :: cs => (true, cs)
    | '+' :: cs => (false, cs)
    | cs => (false, cs)
  if cs.isEmpty || !cs.all Char.isDigit then none
  else some (if negative then -(Text.value cs : Int) else Text.value cs)

/-- Reads digits with an optional point and exponent; digits must stand on one side of the
point at least. -/
def finite? (negative : Bool) (cs : List Char) : Option FloatLiteral :=
  let (whole, rest) := digits cs
  let (fraction, rest) := match rest with
    | '.' :: rest => digits rest
    | rest => ([], rest)
  let coefficient := Text.value (whole ++ fraction)
  if whole.isEmpty && fraction.isEmpty then none
  else
    match rest with
    | [] => some (.finite negative coefficient (-fraction.length))
    | c :: rest =>
      if c = 'e' ∨ c = 'E' then
        (exponent? rest).map fun e => .finite negative coefficient (e - fraction.length)
      else none

/-- Reads what follows the sign. -/
def unsigned? (negative : Bool) (cs : List Char) : Option FloatLiteral :=
  let word := String.ofList (Text.lower cs)
  if word = "nan" then some (.nan negative)
  else if word = "inf" ∨ word = "infinity" then some (.infinite negative)
  else finite? negative cs

def parse (cs : List Char) : Except FloatFault FloatLiteral :=
  let literal := match cs with
    | '-' :: cs => unsigned? true cs
    | '+' :: cs => unsigned? false cs
    | cs => unsigned? false cs
  match literal with
  | some literal => .ok literal
  | none => .error (if cs.isEmpty then .empty else .malformed)

def bits (f : BinaryFormat) : FloatLiteral → Nat
  | nan negative => f.quietNan negative 0 0
  | infinite negative => f.withSign negative f.infinity
  | finite negative coefficient exponent =>
    f.withSign negative (f.roundDecimal coefficient exponent)

end FloatLiteral

/-- The number in single precision that a text stands for. -/
def Binary32.parse (cs : List Char) : Except FloatFault Binary32 :=
  (FloatLiteral.parse cs).map fun literal => .ofNat (literal.bits .single)

/-- The number in double precision that a text stands for. -/
def Binary64.parse (cs : List Char) : Except FloatFault Binary64 :=
  (FloatLiteral.parse cs).map fun literal => .ofNat (literal.bits .double)

end TableAccess
