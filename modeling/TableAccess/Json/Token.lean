import TableAccess.Json.Document
import TableAccess.Json.Number
import TableAccess.Text.Hex

/-!
# JSON tokens

`Token.scan` cuts text into tokens. It ends at the first place where none can be read, which
makes a `fault` the last token.
-/

namespace TableAccess.Json

/-- A token of JSON text. -/
inductive Token where
  | openArray
  | closeArray
  | openObject
  | closeObject
  | colon
  | comma
  /-- A string; one with half a surrogate pair has no value. -/
  | string (s : Option String)
  /-- Any other value without parts. -/
  | scalar (d : Document)
  /-- Text that is no token. -/
  | fault

namespace Token

def isSpace (c : Char) : Bool :=
  c == ' ' || c == '\t' || c == '\n' || c == '\r'

/-- The text up to the quote that ends a string, escapes included. -/
def body? : List Char → Option (List Char)
  | [] => none
  | '"' :: _ => some []
  | '\\' :: c :: cs => (body? cs).map fun body => '\\' :: c :: body
  | c :: cs => (body? cs).map (c :: ·)

/-- The character that a letter behind a backslash stands for. -/
def unescape? (c : Char) : Option Char :=
  if c = '"' ∨ c = '\\' ∨ c = '/' then some c
  else if c = 'b' then some '\x08'
  else if c = 'f' then some '\x0c'
  else if c = 'n' then some '\n'
  else if c = 'r' then some '\r'
  else if c = 't' then some '\t'
  else none

/-- The number that four hexadecimal digits stand for. -/
def unit? (a b c d : Char) : Option Nat := do
  let a ← Text.Hex.digit? a
  let b ← Text.Hex.digit? b
  let c ← Text.Hex.digit? c
  let d ← Text.Hex.digit? d
  return 4096 * a + 256 * b + 16 * c + d

/-- The code units of a string whose escapes are resolved; a surrogate pair is still in two
halves. -/
def units? : List Char → Option (List Nat)
  | [] => some []
  | '\\' :: 'u' :: a :: b :: c :: d :: cs => do
    let unit ← unit? a b c d
    return unit :: (← units? cs)
  | '\\' :: c :: cs => do
    let c ← unescape? c
    return c.toNat :: (← units? cs)
  | c :: cs => if c.toNat < 32 then none else (units? cs).map (c.toNat :: ·)

/-- Joins the halves of surrogate pairs; none if one stands alone. -/
def join? : List Nat → Option (List Char)
  | [] => some []
  | [unit] => if 0xD800 ≤ unit ∧ unit < 0xE000 then none else some [Char.ofNat unit]
  | unit :: next :: units =>
    if 0xD800 ≤ unit ∧ unit < 0xDC00 then
      if 0xDC00 ≤ next ∧ next < 0xE000 then
        (join? units).map
          (Char.ofNat (0x10000 + 1024 * (unit - 0xD800) + (next - 0xDC00)) :: ·)
      else none
    else if 0xDC00 ≤ unit ∧ unit < 0xE000 then none
    else (join? (next :: units)).map (Char.ofNat unit :: ·)

/-- The string whose text between the quotes is given. -/
def ofBody (body : List Char) : Token :=
  match units? body with
  | none => fault
  | some units => string ((join? units).map String.ofList)

/-- Reads digits, of which there must be one at least. -/
def digits? (cs : List Char) : Option (List Char × List Char) :=
  let digits := cs.takeWhile Char.isDigit
  if digits.isEmpty then none else some (digits, cs.drop digits.length)

/-- Reads the digits before the point; a zero in front stands alone. -/
def whole? (cs : List Char) : Option (List Char × List Char) := do
  let (digits, cs) ← digits? cs
  if digits.head? = some '0' ∧ 1 < digits.length then none else some (digits, cs)

/-- Reads the point and the digits behind it, if there is one. -/
def fraction? : List Char → Option (Option (List Char) × List Char)
  | '.' :: cs => (digits? cs).map fun (digits, cs) => (some digits, cs)
  | cs => some (none, cs)

def exponent? : List Char → Option (Option (Bool × List Char) × List Char)
  | c :: cs =>
    if c = 'e' ∨ c = 'E' then
      match cs with
      | '-' :: cs => (digits? cs).map fun (digits, cs) => (some (true, digits), cs)
      | '+' :: cs => (digits? cs).map fun (digits, cs) => (some (false, digits), cs)
      | cs => (digits? cs).map fun (digits, cs) => (some (false, digits), cs)
    else some (none, c :: cs)
  | [] => some (none, [])

def numeral? (negative : Bool) (cs : List Char) : Option (Numeral × List Char) := do
  let (whole, cs) ← whole? cs
  let (fraction, cs) ← fraction? cs
  let (exponent, cs) ← exponent? cs
  return (⟨negative, whole, fraction, exponent⟩, cs)

/-- The value of a number; one that is out of range has none. -/
def ofNumeral (n : Numeral) : Token :=
  match n.toJson? with
  | some j => scalar (.ofJson j)
  | none => scalar .refused

/-- The word that a text begins with, if it is the given one. -/
def word (name : String) (d : Document) (cs : List Char) : Token × List Char :=
  if name.toList.isPrefixOf cs then (scalar d, cs.drop name.length) else (fault, [])

/-- Reads one token from text that does not begin with a blank. -/
def next (cs : List Char) : Token × List Char :=
  match cs with
  | [] => (fault, [])
  | '[' :: cs => (openArray, cs)
  | ']' :: cs => (closeArray, cs)
  | '\x7b' :: cs => (openObject, cs)
  | '\x7d' :: cs => (closeObject, cs)
  | ':' :: cs => (colon, cs)
  | ',' :: cs => (comma, cs)
  | '"' :: cs =>
    match body? cs with
    | some body => (ofBody body, cs.drop (body.length + 1))
    | none => (fault, [])
  | 'n' :: _ => word "null" .null cs
  | 't' :: _ => word "true" (.bool true) cs
  | 'f' :: _ => word "false" (.bool false) cs
  | c :: rest =>
    match if c = '-' then numeral? true rest else numeral? false cs with
    | some (n, rest) => (ofNumeral n, rest)
    | none => (fault, [])

/-- Cuts text into at most `count` tokens. -/
def scanUpTo : Nat → List Char → List Token
  | 0, _ => []
  | count + 1, cs =>
    match cs.dropWhile isSpace with
    | [] => []
    | c :: cs =>
      let (token, rest) := next (c :: cs)
      token :: scanUpTo count rest

/-- Cuts text into tokens; each has a character at least. -/
def scan (cs : List Char) : List Token :=
  scanUpTo cs.length cs

end Token
end TableAccess.Json
