/-!
# Text within a byte limit

`clip` keeps the longest run of whole characters from the start of a text whose UTF-8 form fits
a number of bytes. `shorten` marks text that was cut.
-/

namespace TableAccess.Text

def utf8Length : List Char → Nat
  | [] => 0
  | c :: cs => c.utf8Size + utf8Length cs

/-- The longest beginning of a text that fits `limit` bytes. -/
def clip : Nat → List Char → List Char
  | _, [] => []
  | limit, c :: cs => if c.utf8Size ≤ limit then c :: clip (limit - c.utf8Size) cs else []

/-- The text itself if it fits the limit, else its longest fitting beginning and three dots. -/
def shorten (limit : Option Nat) (s : String) : String :=
  match limit with
  | none => s
  | some limit =>
    if utf8Length s.toList ≤ limit then s else String.ofList (clip limit s.toList) ++ "..."

theorem utf8Length_clip_le (limit : Nat) (cs : List Char) :
    utf8Length (clip limit cs) ≤ limit := by
  induction cs generalizing limit with
  | nil => simp [clip, utf8Length]
  | cons c cs ih =>
    by_cases hc : c.utf8Size ≤ limit
    · have hrest := ih (limit - c.utf8Size)
      simp only [clip, hc, if_true, utf8Length]
      omega
    · simp [clip, hc, utf8Length]

theorem clip_append_rest (limit : Nat) (cs : List Char) : ∃ rest, cs = clip limit cs ++ rest := by
  induction cs generalizing limit with
  | nil => exact ⟨[], rfl⟩
  | cons c cs ih =>
    by_cases hc : c.utf8Size ≤ limit
    · obtain ⟨rest, hrest⟩ := ih (limit - c.utf8Size)
      exact ⟨rest, by simp [clip, hc, ← hrest]⟩
    · exact ⟨c :: cs, by simp [clip, hc]⟩

end TableAccess.Text
