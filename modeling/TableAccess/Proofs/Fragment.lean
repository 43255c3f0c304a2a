import Mathlib.Data.List.Infix
import Mathlib.Tactic.Lemma
import TableAccess.Fragment

/-!
# What a fragment is

`Fragment.parse` accepts exactly the texts that `Fragment.Admits` after the blanks at their ends
have been removed. The conditions are stated without the functions of the reader: parentheses
match if no front of the text closes more of them than it opens and the whole closes them all.
-/

namespace TableAccess

/-- No front of a text closes more parentheses than it opens, and the whole closes them all. -/
def Balanced (cs : List Char) : Prop :=
  (∀ front, front <+: cs → front.count ')' ≤ front.count '(') ∧ cs.count '(' = cs.count ')'

namespace Fragment

/-- The text of a fragment. -/
structure Admits (cs : List Char) : Prop where
  nonempty : cs ≠ []
  characters : ∀ c ∈ forbiddenCharacters, c ∉ cs
  sequences : ∀ sequence ∈ forbiddenSequences, ¬sequence.toList <:+: cs
  balanced : Balanced cs

theorem occurs_iff (pattern cs : List Char) : occurs pattern cs = true ↔ pattern <:+: cs := by
  induction cs with
  | nil => simp [occurs]
  | cons c cs ih => simp [occurs, ih, List.infix_cons_iff]

lemma depth?_open (depth : Nat) (cs : List Char) :
    depth? depth ('(' :: cs) = depth? (depth + 1) cs := by
  simp [depth?]

lemma depth?_close (depth : Nat) (cs : List Char) :
    depth? (depth + 1) (')' :: cs) = depth? depth cs := by
  simp [depth?]

lemma depth?_other (depth : Nat) {c : Char} (cs : List Char) (ho : c ≠ '(') (hc : c ≠ ')') :
    depth? depth (c :: cs) = depth? depth cs := by
  cases depth <;> simp [depth?, hc]

lemma forall_front_cons (p : List Char → Prop) (c : Char) (cs : List Char) :
    (∀ front, front <+: c :: cs → p front) ↔ p [] ∧ ∀ front, front <+: cs → p (c :: front) := by
  simp only [List.prefix_cons_iff]
  constructor
  · intro h
    exact ⟨h [] (Or.inl rfl), fun front hfront => h _ (Or.inr ⟨front, rfl, hfront⟩)⟩
  · rintro ⟨hnil, hcons⟩ front (rfl | ⟨front, rfl, hfront⟩)
    · exact hnil
    · exact hcons front hfront

/-- The depth behind a text counts its parentheses, and never falls below zero on the way. -/
theorem depth?_eq_some_iff (before behind : Nat) (cs : List Char) :
    depth? before cs = some behind ↔
      (∀ front, front <+: cs → front.count ')' ≤ before + front.count '(') ∧
        before + cs.count '(' = behind + cs.count ')' := by
  induction cs generalizing before with
  | nil => simp [depth?]
  | cons c cs ih =>
    rw [forall_front_cons]
    by_cases ho : c = '('
    · subst ho
      simp [depth?_open, ih, Nat.add_assoc, Nat.add_comm 1]
    by_cases hc : c = ')'
    · subst hc
      cases before with
      | zero =>
        simp only [depth?, reduceCtorEq, false_iff, not_and]
        rintro ⟨-, hfront⟩
        -- the parenthesis is a front by itself
        have := hfront [] List.nil_prefix
        simp at this
      | succ before =>
        have hle (m n : Nat) : m + 1 ≤ before + 1 + n ↔ m ≤ before + n := by omega
        have heq (m n : Nat) : before + 1 + m = behind + (n + 1) ↔ before + m = behind + n := by
          omega
        simp [depth?_close, ih, hle, heq]
    · simp [depth?_other before cs ho hc, ih, ho, hc]

theorem depth?_append (before : Nat) (cs ds : List Char) :
    depth? before (cs ++ ds) = (depth? before cs).bind fun middle => depth? middle ds := by
  induction cs generalizing before with
  | nil => simp [depth?]
  | cons c cs ih =>
    rw [List.cons_append]
    by_cases ho : c = '('
    · subst ho
      rw [depth?_open, depth?_open, ih]
    by_cases hc : c = ')'
    · subst hc
      cases before with
      | zero => simp [depth?]
      | succ before => rw [depth?_close, depth?_close, ih]
    · rw [depth?_other before _ ho hc, depth?_other before _ ho hc, ih]

/-- More parentheses may be open before a text that closes none of them. -/
lemma depth?_add {before behind : Nat} {cs : List Char} (h : depth? before cs = some behind)
    (more : Nat) : depth? (before + more) cs = some (behind + more) := by
  rw [depth?_eq_some_iff] at h ⊢
  obtain ⟨hfront, htotal⟩ := h
  refine ⟨fun front hf => ?_, by omega⟩
  have := hfront front hf
  omega

theorem balanced_iff (cs : List Char) : Balanced cs ↔ depth? 0 cs = some 0 := by
  rw [depth?_eq_some_iff, Balanced]
  simp

/-- The texts that are fragments, and the fragments that they are. -/
theorem parse_eq_ok_iff (s : String) (f : Fragment) :
    parse s = .ok f ↔ f = ⟨String.ofList (Text.trim s.toList)⟩ ∧ Admits (Text.trim s.toList) := by
  rw [parse, check]
  generalize Text.trim s.toList = cs
  by_cases hempty : cs = []
  · subst hempty
    simp only [List.isEmpty_nil, if_true, reduceCtorEq, false_iff, not_and]
    intro _ h
    exact h.nonempty rfl
  simp only [List.isEmpty_iff, hempty, if_false]
  cases hchars : cs.find? (forbiddenCharacters.contains ·) with
  | some c =>
    simp only [reduceCtorEq, false_iff, not_and]
    intro _ h
    have hc := List.find?_some hchars
    simp only [List.contains_iff_mem] at hc
    exact h.characters c hc (List.mem_of_find?_eq_some hchars)
  | none =>
    have hcharacters : ∀ c ∈ forbiddenCharacters, c ∉ cs := by
      intro c hc hmem
      have := List.find?_eq_none.mp hchars c hmem
      simp [hc] at this
    cases hseqs : forbiddenSequences.find? fun sequence => occurs sequence.toList cs with
    | some sequence =>
      simp only [reduceCtorEq, false_iff, not_and]
      intro _ h
      have hoccurs := List.find?_some hseqs
      exact h.sequences sequence (List.mem_of_find?_eq_some hseqs) ((occurs_iff _ _).mp hoccurs)
    | none =>
      have hsequences : ∀ sequence ∈ forbiddenSequences, ¬sequence.toList <:+: cs := by
        intro sequence hs hin
        exact List.find?_eq_none.mp hseqs sequence hs ((occurs_iff _ _).mpr hin)
      by_cases hb : isBalanced cs = true
      · have hbalanced : Balanced cs := by
          rw [balanced_iff]
          simpa [isBalanced] using hb
        simp only [hb, if_true, Except.ok.injEq]
        constructor
        · intro h
          exact ⟨h.symm, hempty, hcharacters, hsequences, hbalanced⟩
        · rintro ⟨h, -⟩
          exact h.symm
      · simp only [hb, if_false, Bool.false_eq_true, reduceCtorEq, false_iff, not_and]
        intro _ h
        apply hb
        have hdepth := (balanced_iff cs).mp h.balanced
        simp [isBalanced, hdepth]

end Fragment
end TableAccess
