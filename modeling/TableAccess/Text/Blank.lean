/-!
# Blanks

`isBlank` is the Unicode property White_Space. `trim` removes blanks from both ends of a
text and `words` lists the maximal runs of other characters.
-/

namespace TableAccess.Text

/-- A character of the Unicode property White_Space. -/
def isBlank (c : Char) : Bool :=
  let n := c.toNat
  n == 0x20 || (0x09 ≤ n && n ≤ 0x0D) || n == 0x85 || n == 0xA0 || n == 0x1680 ||
    (0x2000 ≤ n && n ≤ 0x200A) || n == 0x2028 || n == 0x2029 || n == 0x202F || n == 0x205F ||
    n == 0x3000

def trimStart (cs : List Char) : List Char :=
  cs.dropWhile isBlank

def trimEnd (cs : List Char) : List Char :=
  (cs.reverse.dropWhile isBlank).reverse

def trim (cs : List Char) : List Char :=
  trimEnd (trimStart cs)

/-- A finished word in front of the words that follow it; an empty word is none. -/
def flush (word : List Char) (rest : List (List Char)) : List (List Char) :=
  if word.isEmpty then rest else word :: rest

/-- The words of a text whose first word has already begun with `word`. -/
def wordsFrom (word : List Char) : List Char → List (List Char)
  | [] => flush word []
  | c :: cs => if isBlank c then flush word (wordsFrom [] cs) else wordsFrom (word ++ [c]) cs

/-- The maximal runs of characters that are not blank, in order. -/
def words (cs : List Char) : List (List Char) :=
  wordsFrom [] cs

/-- ASCII letters in lower case, every other character as it is. -/
def lower (cs : List Char) : List Char :=
  cs.map Char.toLower

theorem trimStart_eq_self {cs : List Char} (h : ∀ c, cs.head? = some c → isBlank c = false) :
    trimStart cs = cs := by
  cases cs with
  | nil => rfl
  | cons c cs => simp [trimStart, h c rfl]

end TableAccess.Text
