import Mathlib.Tactic.SplitIfs
import TableAccess.Proofs.Blanks
import TableAccess.Proofs.Fragment

/-!
# Parentheses around fragments

A fragment becomes part of a statement as it is, so its parentheses must match among themselves.
`Closes` says which parenthesis of a text closes which; `Closes.within_iff` that the two stand both
inside of a balanced piece or both outside of it, and `balanced_spliced_iff` that fragments can be
left out when the parentheses of a text are matched.
-/

namespace TableAccess

/-- The parenthesis at `j` closes the one at `i`: what stands between them is balanced. -/
def Closes (cs : List Char) (i j : Nat) : Prop :=
  ∃ before inner behind, cs = before ++ '(' :: (inner ++ ')' :: behind) ∧ Balanced inner ∧
    i = before.length ∧ j = i + 1 + inner.length

/-- How many parentheses more the first `n` characters open than they close. -/
def level (cs : List Char) (n : Nat) : Int :=
  (cs.take n).count '(' - (cs.take n).count ')'

section Level

variable {inner : List Char}

/-- Inside of a piece of a text the level is that at its start and that of the piece. -/
lemma level_piece (before inner behind : List Char) {k : Nat} (hk : k ≤ inner.length) :
    level (before ++ (inner ++ behind)) (before.length + k) =
      level (before ++ (inner ++ behind)) before.length + level inner k := by
  simp only [level, List.take_length_add_append, List.take_left', List.count_append,
    List.take_append_of_le_length hk]
  omega

lemma Balanced.level_nonneg (h : Balanced inner) (k : Nat) : 0 ≤ level inner k := by
  have hle := h.1 _ (List.take_prefix k inner)
  rw [level]
  omega

lemma Balanced.level_length (h : Balanced inner) : level inner inner.length = 0 := by
  have heq := h.2
  rw [level, List.take_length]
  omega

/-- In a balanced piece of a text the level does not fall below that at its start. -/
lemma Balanced.level_le (h : Balanced inner) (before behind : List Char) {n : Nat}
    (hlow : before.length ≤ n) (hhigh : n ≤ before.length + inner.length) :
    level (before ++ (inner ++ behind)) before.length ≤ level (before ++ (inner ++ behind)) n := by
  obtain ⟨k, rfl⟩ := Nat.exists_eq_add_of_le hlow
  have hnonneg := h.level_nonneg k
  have hplace := level_piece before inner behind (Nat.le_of_add_le_add_left hhigh)
  omega

/-- Behind a balanced piece of a text the level is that at its start. -/
lemma Balanced.level_behind (h : Balanced inner) (before behind : List Char) :
    level (before ++ (inner ++ behind)) (before.length + inner.length) =
      level (before ++ (inner ++ behind)) before.length := by
  rw [level_piece before inner behind (Nat.le_refl _), h.level_length, Int.add_zero]

/-- Between two parentheses that match the level is above the one in front of them, to which it
returns behind them. -/
lemma Closes.level_between {cs : List Char} {i j : Nat} (h : Closes cs i j) :
    i < j ∧ (∀ n, i < n → n ≤ j → level cs i < level cs n) ∧ level cs (j + 1) = level cs i := by
  obtain ⟨before, inner, behind, hcs, hinner, rfl, rfl⟩ := h
  -- the text as the pieces `(`, what stands between, and `)`
  have hinside : cs = before ++ ['('] ++ (inner ++ ')' :: behind) := by simp [hcs]
  have hend : cs = before ++ '(' :: inner ++ ([')'] ++ behind) := by simp [hcs]
  have hopened : level cs (before.length + 1) = level cs before.length + 1 :=
    hcs ▸ level_piece before ['('] (inner ++ ')' :: behind) (Nat.le_refl _)
  have hlevel {n : Nat} := hinner.level_le (before ++ ['(']) (')' :: behind) (n := n)
  have hbehind := hinner.level_behind (before ++ ['(']) (')' :: behind)
  have hclosed : level cs ((before ++ '(' :: inner).length + 1) =
      level cs (before ++ '(' :: inner).length - 1 :=
    hend ▸ level_piece (before ++ '(' :: inner) [')'] behind (Nat.le_refl _)
  have hlength : (before ++ '(' :: inner).length = before.length + 1 + inner.length := by
    simp only [List.length_append, List.length_cons]
    omega
  simp only [← hinside, List.length_append, List.length_singleton] at hlevel hbehind
  rw [hlength] at hclosed
  refine ⟨by omega, ?_, by omega⟩
  intro n hlow hhigh
  have habove := hlevel hlow hhigh
  omega

end Level

/-- Two parentheses that match stand both inside of a balanced piece or both outside of it. -/
theorem Closes.within_iff {front piece back : List Char} (hpiece : Balanced piece) {i j : Nat}
    (h : Closes (front ++ (piece ++ back)) i j) :
    front.length ≤ i ∧ i < front.length + piece.length ↔
      front.length ≤ j ∧ j < front.length + piece.length := by
  obtain ⟨hlt, habove, hreturn⟩ := h.level_between
  have hback := hpiece.level_behind front back
  constructor
  · rintro ⟨hlow, hhigh⟩
    have hi := hpiece.level_le front back hlow hhigh.le
    by_contra hout
    -- the piece ends between the two, where the level is as low as at its start
    have hend := habove (front.length + piece.length) hhigh (by omega)
    omega
  · rintro ⟨hlow, hhigh⟩
    have hj := hpiece.level_le front back (n := j + 1) (Nat.le_succ_of_le hlow) hhigh
    by_contra hout
    -- the piece begins between the two, and the level falls below that at its start
    have hstart := habove front.length (by omega) hlow
    omega

namespace Fragment

/-- Fragments, each with the text behind it, put together behind a text. -/
def spliced (first : List Char) (parts : List (Fragment × List Char)) : List Char :=
  first ++ parts.flatMap fun part => part.1.text.toList ++ part.2

/-- What is left of such a text without its fragments. -/
def unspliced (first : List Char) (parts : List (Fragment × List Char)) : List Char :=
  first ++ parts.flatMap Prod.snd

lemma depth?_balanced {piece : List Char} (h : Balanced piece) (depth : Nat) (cs : List Char) :
    depth? depth (piece ++ cs) = depth? depth cs := by
  have hpiece := depth?_add ((balanced_iff piece).mp h) depth
  rw [Nat.zero_add] at hpiece
  rw [depth?_append, hpiece, Option.bind_some]

/-- Fragments do not change which parentheses are open behind them. -/
lemma depth?_spliced {parts : List (Fragment × List Char)}
    (h : ∀ part ∈ parts, Balanced part.1.text.toList) (depth : Nat) :
    depth? depth (parts.flatMap fun part => part.1.text.toList ++ part.2) =
      depth? depth (parts.flatMap Prod.snd) := by
  induction parts generalizing depth with
  | nil => rfl
  | cons part parts ih =>
    obtain ⟨hpart, hparts⟩ := List.forall_mem_cons.mp h
    rw [List.flatMap_cons, List.flatMap_cons, List.append_assoc, depth?_balanced hpart,
      depth?_append, depth?_append]
    exact Option.bind_congr fun middle _ => ih hparts middle

theorem balanced_spliced_iff {parts : List (Fragment × List Char)}
    (h : ∀ part ∈ parts, Balanced part.1.text.toList) (first : List Char) :
    Balanced (spliced first parts) ↔ Balanced (unspliced first parts) := by
  have hdepth : depth? 0 (spliced first parts) = depth? 0 (unspliced first parts) := by
    rw [spliced, unspliced, depth?_append, depth?_append]
    exact Option.bind_congr fun middle _ => depth?_spliced h middle
  rw [balanced_iff, balanced_iff, hdepth]

lemma admits_of_parse {s : String} {f : Fragment} (h : parse s = .ok f) :
    Admits f.text.toList ∧ f.text.toList = Text.trim s.toList := by
  obtain ⟨rfl, hadmits⟩ := (parse_eq_ok_iff s f).mp h
  exact ⟨by simpa using hadmits, String.toList_ofList⟩

/-- A fragment is read as itself. -/
lemma parse_text {s : String} {f : Fragment} (h : parse s = .ok f) : parse f.text = .ok f := by
  obtain ⟨hadmits, htext⟩ := admits_of_parse h
  have htrim : Text.trim f.text.toList = f.text.toList := by
    rw [htext, (Text.isTrimmed_trim _).trim_eq_self]
  rw [parse_eq_ok_iff, htrim, String.ofList_toList]
  exact ⟨rfl, hadmits⟩

/-- A text is a fragment if, without the blanks around it, it is not empty, has nothing in it that
could end a statement, begin a literal or a comment or stand for a value, and its parentheses
match; the fragment is that text, which is read as itself. Wherever fragments are put, they neither
close a parenthesis outside of them nor leave one to be closed there, and the parentheses of the
whole match if they do without the fragments. -/
theorem parse_accepts_closed :
    (∀ s, let t := Text.trim s.toList
      ((∃ f, parse s = .ok f) ↔ t ≠ [] ∧
        (∀ c ∈ [';', '\x00', '\'', '"', '\x60', '\\', '$'], c ∉ t) ∧
        (∀ sequence ∈ ["--", "/*", "*/"], ¬sequence.toList <:+: t) ∧
        t.count '(' = t.count ')' ∧ ∀ front, front <+: t → front.count ')' ≤ front.count '(') ∧
      ∀ f, parse s = .ok f → f.text.toList = t ∧ parse f.text = .ok f) ∧
    (∀ f, (∃ s, parse s = .ok f) → ∀ front back i j,
      Closes (front ++ (f.text.toList ++ back)) i j →
        (front.length ≤ i ∧ i < front.length + f.text.toList.length ↔
          front.length ≤ j ∧ j < front.length + f.text.toList.length)) ∧
    ∀ first parts, (∀ part ∈ parts, ∃ s, parse s = .ok part.1) →
      (Balanced (spliced first parts) ↔ Balanced (unspliced first parts)) := by
  have hbalanced {f : Fragment} (h : ∃ s, parse s = .ok f) : Balanced f.text.toList := by
    obtain ⟨s, hs⟩ := h
    exact (admits_of_parse hs).1.balanced
  refine ⟨fun s => ⟨⟨?_, ?_⟩, ?_⟩, ?_, ?_⟩
  · rintro ⟨f, hf⟩
    obtain ⟨-, hne, hcharacters, hsequences, hfronts, htotal⟩ := (parse_eq_ok_iff s f).mp hf
    exact ⟨hne, hcharacters, hsequences, htotal, hfronts⟩
  · rintro ⟨hne, hcharacters, hsequences, htotal, hfronts⟩
    exact ⟨_, (parse_eq_ok_iff s _).mpr ⟨rfl, hne, hcharacters, hsequences, hfronts, htotal⟩⟩
  · intro f hf
    exact ⟨(admits_of_parse hf).2, parse_text hf⟩
  · intro f hf front back i j h
    exact h.within_iff (hbalanced hf)
  · intro first parts hparts
    exact balanced_spliced_iff (fun part hpart => hbalanced (hparts part hpart)) first

/-- The last parenthesis of an argument does not close the one in front of it. -/
theorem parse_accepts_closed_argument :
    let f : Fragment := ⟨"f((a), b)"⟩
    parse "\tf((a), b)\n" = .ok f ∧ parse f.text = .ok f ∧
      ¬Closes ("g(".toList ++ (f.text.toList ++ ")".toList)) 1 10 ∧
      Balanced (spliced "g(".toList [(f, ", ".toList), (f, ")".toList)]) := by
  intro f
  have hf : parse "\tf((a), b)\n" = .ok f := by decide +kernel
  obtain ⟨hread, hclosed, hspliced⟩ := parse_accepts_closed
  refine ⟨hf, ((hread _).2 f hf).2, ?_, ?_⟩
  · intro h
    have hwithin := hclosed f ⟨_, hf⟩ _ _ 1 10 h
    exact absurd (hwithin.mpr (by decide)) (by decide)
  · refine (hspliced _ _ ?_).mpr ((balanced_iff _).mpr (by decide))
    simp only [List.forall_mem_cons, List.not_mem_nil, false_implies, implies_true, and_true]
    exact ⟨⟨_, hf⟩, ⟨_, hf⟩⟩

end Fragment
end TableAccess
