import TableAccess.Json.Basic
import TableAccess.Number.FloatText
import TableAccess.Text.Hex

/-!
# JSON text

`Json.text` writes a value without blanks. In strings only quotes, backslashes and control
characters are escaped.
-/

namespace TableAccess.Json

def escaped (c : Char) : List Char :=
  if c = '"' ∨ c = '\\' then ['\\', c]
  else if c = '\n' then ['\\', 'n']
  else if c = '\r' then ['\\', 'r']
  else if c = '\t' then ['\\', 't']
  else if c.toNat = 8 then ['\\', 'b']
  else if c.toNat = 12 then ['\\', 'f']
  else if c.toNat < 32 then ['\\', 'u'] ++ Text.Hex.padded 4 c.toNat
  else [c]

def stringChars (s : String) : List Char :=
  '"' :: s.toList.flatMap escaped ++ ['"']

mutual

/-- A value without blanks. -/
def chars : Json → List Char
  | null => "null".toList
  | bool b => (if b then "true" else "false").toList
  | int n => (toString n).toList
  | float x => (x.text .json).toList
  | string s => stringChars s
  | array [] => ['[', ']']
  | array (x :: xs) => '[' :: chars x ++ itemChars xs ++ [']']
  | object [] => ['\x7b', '\x7d']
  | object ((key, x) :: xs) =>
    '\x7b' :: stringChars key ++ ':' :: chars x ++ memberChars xs ++ ['\x7d']

/-- The items behind the first one. -/
def itemChars : List Json → List Char
  | [] => []
  | x :: xs => ',' :: chars x ++ itemChars xs

def memberChars : List (String × Json) → List Char
  | [] => []
  | (key, x) :: xs => ',' :: stringChars key ++ ':' :: chars x ++ memberChars xs

end

def text (j : Json) : String :=
  String.ofList j.chars

end TableAccess.Json
