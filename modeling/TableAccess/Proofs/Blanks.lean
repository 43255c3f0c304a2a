import Mathlib.Tactic.Lemma
import TableAccess.Text.Blank

/-!
# Blanks at the ends of texts

What is left of a text between blanks does not depend on them, and all of it is left if it begins
and ends with something visible.
-/

namespace TableAccess.Text

/-- There is nothing but blanks. -/
def IsGap (cs : List Char) : Prop :=
  ∀ c ∈ cs, isBlank c = true

/-- No blank stands at either end. -/
structure IsTrimmed (cs : List Char) : Prop where
  head : ∀ c ∈ cs.head?, isBlank c = false
  last : ∀ c ∈ cs.getLast?, isBlank c = false

variable {front back cs : List Char}

lemma isGap_of_all (h : cs.all isBlank = true) : IsGap cs :=
  List.all_eq_true.mp h

lemma visible_of_any (h : cs.any isBlank = false) : ∀ c ∈ cs, isBlank c = false := by
  intro c hc
  have hvisible := List.any_eq_false.mp h c hc
  exact eq_false_of_ne_true hvisible

/-- Letters, digits and the marks of ASCII are no blanks. -/
lemma isBlank_of_toNat {c : Char} (hlow : 33 ≤ c.toNat) (hhigh : c.toNat ≤ 126) :
    isBlank c = false := by
  simp only [isBlank, Bool.or_eq_false_iff, Bool.and_eq_false_iff, beq_eq_false_iff_ne,
    decide_eq_false_iff_not]
  omega

lemma isBlank_of_isDigit {c : Char} (h : c.isDigit = true) : isBlank c = false := by
  have hbounds : 48 ≤ c.toNat ∧ c.toNat ≤ 57 := Char.isDigit_iff_toNat.mp h
  exact isBlank_of_toNat (by omega) (by omega)

lemma ne_of_isDigit {c d : Char} (hc : c.isDigit = true) (hd : d.isDigit = false) : c ≠ d := by
  rintro rfl
  rw [hc] at hd
  cases hd

lemma trimStart_cons {c : Char} (h : isBlank c = false) (cs : List Char) :
    trimStart (c :: cs) = c :: cs := by
  simp [trimStart, h]

lemma trimStart_gap_append (hfront : IsGap front) (cs : List Char) :
    trimStart (front ++ cs) = trimStart cs := by
  rw [trimStart, List.dropWhile_append_of_pos hfront, trimStart]

lemma trimEnd_append_gap (hback : IsGap back) (cs : List Char) :
    trimEnd (cs ++ back) = trimEnd cs := by
  have hreverse : IsGap back.reverse := fun c hc => hback c (List.mem_reverse.mp hc)
  rw [trimEnd, List.reverse_append, List.dropWhile_append_of_pos hreverse, trimEnd]

/-- Blanks behind a text are not kept, even if nothing else is left of it. -/
lemma trim_append_gap (hback : IsGap back) (cs : List Char) : trim (cs ++ back) = trim cs := by
  induction cs with
  | nil =>
    have h := trimStart_gap_append hback []
    rw [List.append_nil] at h
    rw [List.nil_append, trim, h, trim]
  | cons c cs ih =>
    by_cases hc : isBlank c = true
    · simpa [trim, trimStart, hc] using ih
    · have h := trimEnd_append_gap hback (c :: cs)
      simpa [trim, trimStart, hc] using h

theorem trim_around (hfront : IsGap front) (hback : IsGap back) (cs : List Char) :
    trim (front ++ cs ++ back) = trim cs := by
  rw [trim_append_gap hback, trim, trimStart_gap_append hfront, trim]

lemma trimEnd_eq_self (h : ∀ c ∈ cs.getLast?, isBlank c = false) : trimEnd cs = cs := by
  have hhead : ∀ c, cs.reverse.head? = some c → isBlank c = false := by simpa using h
  have hreverse := trimStart_eq_self hhead
  rw [trimStart] at hreverse
  rw [trimEnd, hreverse, List.reverse_reverse]

lemma head?_trimStart (cs : List Char) : ∀ c ∈ (trimStart cs).head?, isBlank c = false := by
  have h := cs.head?_dropWhile_not isBlank
  intro c hc
  rw [trimStart] at hc
  rw [Option.mem_def.mp hc] at h
  exact h

lemma getLast?_trimEnd (cs : List Char) : ∀ c ∈ (trimEnd cs).getLast?, isBlank c = false := by
  rw [trimEnd, List.getLast?_reverse]
  exact head?_trimStart cs.reverse

/-- Removing blanks at the end leaves the front of a text. -/
lemma trimEnd_prefix (cs : List Char) : trimEnd cs <+: cs := by
  rw [trimEnd, ← List.reverse_suffix, List.reverse_reverse]
  exact List.dropWhile_suffix isBlank

theorem isTrimmed_trim (cs : List Char) : IsTrimmed (trim cs) := by
  refine ⟨?_, getLast?_trimEnd _⟩
  intro c hc
  obtain ⟨rest, hrest⟩ := trimEnd_prefix (trimStart cs)
  refine head?_trimStart cs c ?_
  rw [← hrest, List.head?_append, ← trim, Option.mem_def.mp hc, Option.some_or]
  exact Option.mem_def.mpr rfl

lemma isTrimmed_of_forall (h : ∀ c ∈ cs, isBlank c = false) : IsTrimmed cs :=
  ⟨fun c hc => h c (List.mem_of_mem_head? hc), fun c hc => h c (List.mem_of_mem_getLast? hc)⟩

/-- Whatever stands between two texts, their own ends are those of the whole. -/
lemma IsTrimmed.between (hfront : IsTrimmed front) (hback : IsTrimmed back) (hne : front ≠ [])
    (hne' : back ≠ []) (middle : List Char) : IsTrimmed (front ++ middle ++ back) := by
  have hhead := List.head?_eq_some_head hne
  have hlast := List.getLast?_eq_some_getLast hne'
  constructor
  · rw [List.append_assoc, List.head?_append, hhead, Option.some_or, ← hhead]
    exact hfront.head
  · rw [List.getLast?_append, hlast, Option.some_or, ← hlast]
    exact hback.last

theorem IsTrimmed.trim_eq_self (h : IsTrimmed cs) : trim cs = cs := by
  rw [trim, trimStart_eq_self h.head, trimEnd_eq_self h.last]

end TableAccess.Text
