import Mathlib.Tactic.SplitIfs
import TableAccess.Proofs.Blanks

/-!
# The last word of a text

`Text.IsLastWord` says what the last word of a text is without cutting the text into words;
`Text.words` ends in exactly that word. All of it follows from one equation, that a blank ends a
word wherever it stands.
-/

namespace TableAccess.Text

/-- The last word of a text: it has no blank, the text or a blank is all that it begins behind, and
only blanks stand behind it. -/
def IsLastWord (cs word : List Char) : Prop :=
  ∃ front gap, cs = front ++ word ++ gap ∧ word ≠ [] ∧ (∀ c ∈ word, isBlank c = false) ∧
    (∀ c ∈ front.getLast?, isBlank c = true) ∧ IsGap gap

lemma flush_append (word : List Char) (xs ys : List (List Char)) :
    flush word (xs ++ ys) = flush word xs ++ ys := by
  rw [flush, flush]
  split_ifs <;> rfl

/-- A blank ends the word before it. -/
lemma wordsFrom_append_blank {b : Char} (hb : isBlank b = true) (word cs ds : List Char) :
    wordsFrom word (cs ++ b :: ds) = wordsFrom word cs ++ words ds := by
  induction cs generalizing word with
  | nil =>
    have hnil : wordsFrom word [] = flush word [] := by rw [wordsFrom]
    rw [hnil, ← flush_append, List.nil_append, wordsFrom, if_pos hb, List.nil_append, words]
  | cons c cs ih =>
    rw [List.cons_append, wordsFrom, wordsFrom]
    split_ifs
    · rw [ih, flush_append]
    · exact ih _

lemma words_gap {gap : List Char} (hgap : IsGap gap) : words gap = [] := by
  induction gap with
  | nil => rfl
  | cons b gap ih =>
    obtain ⟨hb, hrest⟩ := List.forall_mem_cons.mp hgap
    rw [words, wordsFrom, if_pos hb]
    exact ih hrest

lemma wordsFrom_append_gap {gap : List Char} (hgap : IsGap gap) (word cs : List Char) :
    wordsFrom word (cs ++ gap) = wordsFrom word cs := by
  cases gap with
  | nil => rw [List.append_nil]
  | cons b gap =>
    obtain ⟨hb, hrest⟩ := List.forall_mem_cons.mp hgap
    rw [wordsFrom_append_blank hb, words_gap hrest, List.append_nil]

lemma wordsFrom_visible {cs : List Char} (hcs : ∀ c ∈ cs, isBlank c = false) (word : List Char) :
    wordsFrom word cs = flush (word ++ cs) [] := by
  induction cs generalizing word with
  | nil => rw [List.append_nil, wordsFrom]
  | cons c cs ih =>
    obtain ⟨hc, hrest⟩ := List.forall_mem_cons.mp hcs
    rw [wordsFrom, if_neg (by simp [hc]), ih hrest, List.append_assoc, List.singleton_append]

lemma IsLastWord.getLast?_words {cs word : List Char} (h : IsLastWord cs word) :
    (words cs).getLast? = some word := by
  obtain ⟨front, gap, rfl, hne, hword, hfront, hgap⟩ := h
  have hlast : words (word ++ gap) = [word] := by
    rw [words, wordsFrom_append_gap hgap, wordsFrom_visible hword, List.nil_append, flush,
      if_neg (by simpa using hne)]
  rw [List.append_assoc]
  obtain rfl | ⟨before, b, rfl⟩ := front.eq_nil_or_concat
  · rw [List.nil_append, hlast, List.getLast?_singleton]
  · have hb : isBlank b = true := hfront b (by simp)
    rw [List.concat_eq_append, List.append_assoc, List.singleton_append, words,
      wordsFrom_append_blank hb, hlast, List.getLast?_concat]

/-- A text with anything in it that is visible has a last word. -/
lemma isGap_or_exists_lastWord (cs : List Char) : IsGap cs ∨ ∃ word, IsLastWord cs word := by
  induction cs with
  | nil => exact .inl (by simp [IsGap])
  | cons c cs ih =>
    cases hc : isBlank c with
    | true =>
      rcases ih with hgap | ⟨word, front, gap, rfl, hne, hword, hfront, hgap⟩
      · exact .inl (List.forall_mem_cons.mpr ⟨hc, hgap⟩)
      · refine .inr ⟨word, c :: front, gap, rfl, hne, hword, ?_, hgap⟩
        intro b hb
        cases front with
        | nil => exact (by simpa using hb : c = b) ▸ hc
        | cons d front => exact hfront b (by simpa using hb)
    | false =>
      refine .inr ?_
      rcases ih with hgap | ⟨word, front, gap, rfl, hne, hword, hfront, hgap⟩
      · exact ⟨[c], [], cs, rfl, by simp, by simp [hc], by simp, hgap⟩
      · cases front with
        | nil =>
          -- the character belongs to the word behind it
          exact ⟨c :: word, [], gap, rfl, by simp, List.forall_mem_cons.mpr ⟨hc, hword⟩,
            by simp, hgap⟩
        | cons d front =>
          refine ⟨word, c :: d :: front, gap, rfl, hne, hword, ?_, hgap⟩
          intro b hb
          exact hfront b (by simpa using hb)

theorem getLast?_words_iff {cs word : List Char} :
    (words cs).getLast? = some word ↔ IsLastWord cs word := by
  refine ⟨?_, IsLastWord.getLast?_words⟩
  intro h
  rcases isGap_or_exists_lastWord cs with hgap | ⟨found, hfound⟩
  · simp [words_gap hgap] at h
  · rw [hfound.getLast?_words, Option.some.injEq] at h
    exact h ▸ hfound

end TableAccess.Text
