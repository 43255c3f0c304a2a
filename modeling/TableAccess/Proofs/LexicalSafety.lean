import Mathlib.Data.List.Chain
import TableAccess.Proofs.Fragment
import TableAccess.Proofs.Identifier
import TableAccess.Proofs.Lexeme
import TableAccess.Text.Digits

/-!
# Lexical safety

`Lexeme.Clean` says of the lexemes of a statement that they hold no comment and no stray mark,
that parentheses match and that the placeholders are numbered in order. `Lexeme.Reads` is the
same for a text from the middle of a statement, which continues a numbering and may leave
parentheses open; such texts can be put together at spacers.
-/

namespace TableAccess
namespace Lexeme

/-- The character of a mark. -/
def mark? : Lexeme → Option Char
  | mark c => some c
  | _ => none

/-- The digits of a placeholder. -/
def digits? : Lexeme → Option (List Char)
  | placeholder digits => some digits
  | _ => none

/-- A string in single quotes. -/
def isLiteral : Lexeme → Bool
  | literal _ => true
  | _ => false

/-- The marks that no statement contains. -/
def forbiddenMarks : List Char :=
  [';', '\x00', '\\', '\x60']

/-- The digits of so many placeholders that `count` others precede. -/
def numbered (count more : Nat) : List (List Char) :=
  (List.range' (count + 1) more).map fun i => (toString i).toList

/-- The lexemes of a statement with so many parameters. -/
structure Clean (params : Nat) (ls : List Lexeme) : Prop where
  marks : ∀ c ∈ forbiddenMarks, mark c ∉ ls
  lineComment : ¬[mark '-', mark '-'] <:+: ls
  blockComment : ¬[mark '/', mark '*'] <:+: ls
  balanced : Balanced (ls.filterMap mark?)
  placeholders : ls.filterMap digits? = numbered 0 params

/-- Two lexemes that do not begin a comment together. -/
def Uncommented (l m : Lexeme) : Prop :=
  ¬(l = mark '-' ∧ m = mark '-') ∧ ¬(l = mark '/' ∧ m = mark '*')

instance : DecidableRel Uncommented :=
  fun _ _ => inferInstanceAs (Decidable (_ ∧ _))

/-- Lexemes from the middle of a statement, where `count` placeholders stand before them and
`opened` parentheses are open; behind them there are `more` placeholders, and `closed`
parentheses are open. -/
structure Tidy (count more opened closed : Nat) (ls : List Lexeme) : Prop where
  marks : ∀ c ∈ forbiddenMarks, mark c ∉ ls
  uncommented : ls.IsChain Uncommented
  depth : Fragment.depth? opened (ls.filterMap mark?) = some closed
  placeholders : ls.filterMap digits? = numbered count more

lemma numbered_add (count more further : Nat) :
    numbered count (more + further) = numbered count more ++ numbered (count + more) further := by
  have h : count + more + 1 = count + 1 + more := by omega
  rw [numbered, numbered, numbered, h, ← List.map_append, List.range'_append_1]

theorem Tidy.clean {params : Nat} {ls : List Lexeme} (h : Tidy 0 params 0 0 ls) :
    Clean params ls where
  marks := h.marks
  lineComment := by
    intro hin
    have hpair := List.IsChain.infix h.uncommented hin
    exact (List.isChain_pair.mp hpair).1 ⟨rfl, rfl⟩
  blockComment := by
    intro hin
    have hpair := List.IsChain.infix h.uncommented hin
    exact (List.isChain_pair.mp hpair).2 ⟨rfl, rfl⟩
  balanced := (Fragment.balanced_iff _).mpr h.depth
  placeholders := h.placeholders

theorem Tidy.append {count more further opened middle closed : Nat} {ls ms : List Lexeme}
    (hl : Tidy count more opened middle ls) (hm : Tidy (count + more) further middle closed ms)
    (hseam : ∀ l ∈ ls.getLast?, ∀ m ∈ ms.head?, Uncommented l m) :
    Tidy count (more + further) opened closed (ls ++ ms) where
  marks := by
    intro c hc hin
    rcases List.mem_append.mp hin with hin | hin
    · exact hl.marks c hc hin
    · exact hm.marks c hc hin
  uncommented := List.isChain_append.mpr ⟨hl.uncommented, hm.uncommented, hseam⟩
  depth := by
    rw [List.filterMap_append, Fragment.depth?_append, hl.depth]
    exact hm.depth
  placeholders := by
    rw [List.filterMap_append, hl.placeholders, hm.placeholders, numbered_add]

theorem Tidy.deeper {count more opened closed : Nat} {ls : List Lexeme}
    (h : Tidy count more opened closed ls) (depth : Nat) :
    Tidy count more (opened + depth) (closed + depth) ls :=
  ⟨h.marks, h.uncommented, Fragment.depth?_add h.depth depth, h.placeholders⟩

/-- A text whose lexemes are tidy. -/
structure Reads (count more opened closed : Nat) (cs : List Char) (ls : List Lexeme) : Prop where
  scanned : scan cs = some ls
  tidy : Tidy count more opened closed ls

lemma uncommented_spacer {c : Char} (hc : isSpacer c = true) (l : Lexeme) :
    Uncommented l (mark c) ∧ Uncommented (mark c) l := by
  rw [isSpacer_iff] at hc
  rcases hc with rfl | rfl | rfl | rfl | rfl <;> simp [Uncommented]

theorem Reads.append_of_head {count more further opened middle closed : Nat} {cs ds : List Char}
    {ls ms : List Lexeme} (hl : Reads count more opened middle cs ls)
    (hm : Reads (count + more) further middle closed ds ms) {c : Char} (hc : isSpacer c = true)
    (hhead : ds.head? = some c) :
    Reads count (more + further) opened closed (cs ++ ds) (ls ++ ms) := by
  refine ⟨scan_append_of_head hl.scanned hm.scanned hc hhead, hl.tidy.append hm.tidy ?_⟩
  obtain ⟨es, rfl⟩ : ∃ es, ds = c :: es := List.head?_eq_some_iff.mp hhead
  have hscan := hm.scanned
  rw [scan_spacer_cons hc, Option.map_eq_some_iff] at hscan
  obtain ⟨rest, -, rfl⟩ := hscan
  intro l _ m hmem
  simp only [List.head?_cons, Option.mem_def, Option.some.injEq] at hmem
  rw [← hmem]
  exact (uncommented_spacer hc l).1

theorem Reads.append_of_last {count more further opened middle closed : Nat} {cs ds : List Char}
    {ls ms : List Lexeme} (hl : Reads count more opened middle cs ls)
    (hm : Reads (count + more) further middle closed ds ms) {c : Char} (hc : isSpacer c = true)
    (hlast : cs.getLast? = some c) :
    Reads count (more + further) opened closed (cs ++ ds) (ls ++ ms) := by
  refine ⟨scan_append_of_last hl.scanned hm.scanned hc hlast, hl.tidy.append hm.tidy ?_⟩
  obtain ⟨es, rfl⟩ : ∃ es, cs = es ++ [c] := List.getLast?_eq_some_iff.mp hlast
  obtain ⟨front, -, rfl⟩ := scanFrom_snoc_spacer hc hl.scanned
  intro l hmem m _
  simp only [List.getLast?_append, List.getLast?_singleton, Option.some_or, Option.mem_def,
    Option.some.injEq] at hmem
  rw [← hmem]
  exact (uncommented_spacer hc m).2

/-- A text whose lexemes are tidy and hold no string. -/
def Harmless (count more opened closed : Nat) (cs : List Char) : Prop :=
  ∃ ls, Reads count more opened closed cs ls ∧ ∀ l ∈ ls, l.isLiteral = false

lemma forall_not_isLiteral_append {ls ms : List Lexeme} (hl : ∀ l ∈ ls, l.isLiteral = false)
    (hm : ∀ l ∈ ms, l.isLiteral = false) : ∀ l ∈ ls ++ ms, l.isLiteral = false := by
  intro l hmem
  rcases List.mem_append.mp hmem with hmem | hmem
  · exact hl l hmem
  · exact hm l hmem

theorem Harmless.append_of_head {count more further opened middle closed : Nat}
    {cs ds : List Char} (hcs : Harmless count more opened middle cs)
    (hds : Harmless (count + more) further middle closed ds) {c : Char} (hc : isSpacer c = true)
    (hhead : ds.head? = some c) : Harmless count (more + further) opened closed (cs ++ ds) := by
  obtain ⟨ls, hls, hl⟩ := hcs
  obtain ⟨ms, hms, hm⟩ := hds
  exact ⟨ls ++ ms, hls.append_of_head hms hc hhead, forall_not_isLiteral_append hl hm⟩

theorem Harmless.append_of_last {count more further opened middle closed : Nat}
    {cs ds : List Char} (hcs : Harmless count more opened middle cs)
    (hds : Harmless (count + more) further middle closed ds) {c : Char} (hc : isSpacer c = true)
    (hlast : cs.getLast? = some c) : Harmless count (more + further) opened closed (cs ++ ds) := by
  obtain ⟨ls, hls, hl⟩ := hcs
  obtain ⟨ms, hms, hm⟩ := hds
  exact ⟨ls ++ ms, hls.append_of_last hms hc hlast, forall_not_isLiteral_append hl hm⟩

lemma Harmless.deeper {count more opened closed : Nat} {cs : List Char}
    (h : Harmless count more opened closed cs) (depth : Nat) :
    Harmless count more (opened + depth) (closed + depth) cs := by
  obtain ⟨ls, hls, hl⟩ := h
  exact ⟨ls, ⟨hls.scanned, hls.tidy.deeper depth⟩, hl⟩

/-- Text without quotes and placeholders that begins no comment. -/
structure PlainText (opened closed : Nat) (cs : List Char) : Prop where
  characters : ∀ c ∈ Fragment.forbiddenCharacters, c ∉ cs
  sequences : ∀ sequence ∈ Fragment.forbiddenSequences,
    Fragment.occurs sequence.toList cs = false
  depth : Fragment.depth? opened cs = some closed

/-- The conditions of a plain text as a computation. -/
def isPlainText (opened closed : Nat) (cs : List Char) : Bool :=
  Fragment.forbiddenCharacters.all (fun c => !cs.contains c) &&
    Fragment.forbiddenSequences.all (fun sequence => !Fragment.occurs sequence.toList cs) &&
    Fragment.depth? opened cs == some closed

lemma isPlainText_iff {opened closed : Nat} {cs : List Char} :
    isPlainText opened closed cs = true ↔ PlainText opened closed cs := by
  have hiff : isPlainText opened closed cs = true ↔
      ((∀ c ∈ Fragment.forbiddenCharacters, c ∉ cs) ∧
        ∀ sequence ∈ Fragment.forbiddenSequences,
          Fragment.occurs sequence.toList cs = false) ∧
        Fragment.depth? opened cs = some closed := by
    simp only [isPlainText, Bool.and_eq_true, List.all_eq_true, Bool.not_eq_true', beq_iff_eq,
      List.contains_eq_mem, decide_eq_false_iff_not]
  rw [hiff]
  exact ⟨fun h => ⟨h.1.1, h.1.2, h.2⟩, fun h => ⟨⟨h.characters, h.sequences⟩, h.depth⟩⟩

instance (opened closed : Nat) (cs : List Char) : Decidable (PlainText opened closed cs) :=
  decidable_of_iff _ isPlainText_iff

lemma depth?_word {cs : List Char} (h : IsProper (word cs)) (depth : Nat) (rest : List Char) :
    Fragment.depth? depth (cs ++ rest) = Fragment.depth? depth rest := by
  induction cs with
  | nil => rfl
  | cons c cs ih =>
    have hc : continuesWord c = true := h c (by simp)
    have hparens : c ≠ '(' ∧ c ≠ ')' := by
      constructor <;> rintro rfl <;> exact absurd hc (by decide)
    rw [List.cons_append, Fragment.depth?_other depth _ hparens.1 hparens.2]
    exact ih fun d hd => h d (by simp [hd])

/-- The parentheses of words and marks are those of their marks. -/
lemma depth?_flatMap_spelling {ls : List Lexeme} (hproper : ∀ l ∈ ls, l.IsProper)
    (hplain : ∀ l ∈ ls, (∃ cs, l = word cs) ∨ ∃ c, l = mark c) (depth : Nat) :
    Fragment.depth? depth (ls.flatMap spelling) = Fragment.depth? depth (ls.filterMap mark?) := by
  induction ls generalizing depth with
  | nil => rfl
  | cons l ls ih =>
    obtain ⟨hl, hls⟩ := List.forall_mem_cons.mp hproper
    obtain ⟨hform, hforms⟩ := List.forall_mem_cons.mp hplain
    rw [List.flatMap_cons]
    rcases hform with ⟨cs, rfl⟩ | ⟨c, rfl⟩
    · rw [show (word cs :: ls).filterMap mark? = ls.filterMap mark? from rfl]
      change Fragment.depth? depth (cs ++ _) = _
      rw [depth?_word hl, ih hls hforms]
    · rw [show (mark c :: ls).filterMap mark? = [c] ++ ls.filterMap mark? from rfl]
      change Fragment.depth? depth ([c] ++ _) = _
      rw [Fragment.depth?_append, Fragment.depth?_append]
      congr 1
      funext middle
      exact ih hls hforms middle

lemma PlainText.forms {opened closed : Nat} {cs : List Char} (h : PlainText opened closed cs)
    {ls : List Lexeme} (hscan : scan cs = some ls) :
    ∀ l ∈ ls, (∃ w, l = word w) ∨ ∃ c, l = mark c := by
  intro l hl
  have hmem : ∀ c ∈ l.spelling, c ∈ cs := by
    intro c hc
    rw [← spelling_of_scan hscan]
    exact List.mem_flatMap.mpr ⟨l, hl, hc⟩
  cases l with
  | word w => exact Or.inl ⟨w, rfl⟩
  | mark c => exact Or.inr ⟨c, rfl⟩
  | quoted name => exact absurd (hmem '"' (by simp [spelling])) (h.characters _ (by decide))
  | literal text => exact absurd (hmem '\'' (by simp [spelling])) (h.characters _ (by decide))
  | placeholder digits => exact absurd (hmem '$' (by simp [spelling])) (h.characters _ (by decide))

/-- Marks that follow each other stand so in the text. -/
lemma infix_of_marks {cs : List Char} {ls front rest : List Lexeme} {c d : Char}
    (hscan : scan cs = some ls) (hls : ls = front ++ mark c :: mark d :: rest) : [c, d] <:+: cs := by
  refine ⟨front.flatMap spelling, rest.flatMap spelling, ?_⟩
  rw [← spelling_of_scan hscan, hls]
  simp [spelling]

lemma PlainText.uncommented {opened closed : Nat} {cs : List Char}
    (h : PlainText opened closed cs) {ls : List Lexeme} (hscan : scan cs = some ls) :
    ls.IsChain Uncommented := by
  rw [List.isChain_iff_forall_rel_of_append_cons_cons]
  intro l m front rest hls
  constructor
  · rintro ⟨rfl, rfl⟩
    have hdashes : Fragment.occurs ['-', '-'] cs = false := h.sequences "--" (by decide)
    rw [(Fragment.occurs_iff _ _).mpr (infix_of_marks hscan hls)] at hdashes
    exact absurd hdashes (by decide)
  · rintro ⟨rfl, rfl⟩
    have hopening : Fragment.occurs ['/', '*'] cs = false := h.sequences "/*" (by decide)
    rw [(Fragment.occurs_iff _ _).mpr (infix_of_marks hscan hls)] at hopening
    exact absurd hopening (by decide)

lemma forbiddenMarks_subset : ∀ c ∈ forbiddenMarks, c ∈ Fragment.forbiddenCharacters := by
  simp [forbiddenMarks, Fragment.forbiddenCharacters]

theorem PlainText.harmless {opened closed : Nat} {cs : List Char}
    (h : PlainText opened closed cs) (count : Nat) : Harmless count 0 opened closed cs := by
  have hquotes : ∀ c ∈ cs, c ≠ '"' ∧ c ≠ '\'' := by
    intro c hc
    constructor
    · rintro rfl
      exact h.characters _ (by decide) hc
    · rintro rfl
      exact h.characters _ (by decide) hc
  have hbetween : Place.between.finish?.isSome = true := rfl
  obtain ⟨ls, hscan⟩ := Option.isSome_iff_exists.mp (scanFrom_isSome hbetween hquotes)
  have hspelling := spelling_of_scan hscan
  have hforms := h.forms hscan
  refine ⟨ls, ⟨hscan, ?_, h.uncommented hscan, ?_, ?_⟩, ?_⟩
  · intro c hc hmem
    refine h.characters c (forbiddenMarks_subset c hc) ?_
    rw [← hspelling]
    exact List.mem_flatMap.mpr ⟨mark c, hmem, by simp [spelling]⟩
  · rw [← depth?_flatMap_spelling (isProper_of_scan hscan) hforms, hspelling, h.depth]
  · rw [List.filterMap_eq_nil_iff.mpr]
    · rfl
    · intro l hl
      rcases hforms l hl with ⟨w, rfl⟩ | ⟨c, rfl⟩ <;> rfl
  · intro l hl
    rcases hforms l hl with ⟨w, rfl⟩ | ⟨c, rfl⟩ <;> rfl

/-- A lexeme that is neither mark nor placeholder is tidy wherever it stands. -/
lemma tidy_singleton {l : Lexeme} (hmark : l.mark? = none) (hdigits : l.digits? = none)
    (count opened : Nat) : Tidy count 0 opened opened [l] := by
  refine ⟨?_, List.isChain_singleton l, ?_, ?_⟩
  · intro c _ hmem
    rw [List.mem_singleton] at hmem
    rw [← hmem] at hmark
    exact absurd hmark (by simp [mark?])
  · rw [List.filterMap_cons_none hmark]
    rfl
  · rw [List.filterMap_cons_none hdigits]
    rfl

theorem harmless_part {p : Identifier.Part} (h : p.IsProper) (count opened : Nat) :
    Harmless count 0 opened opened p.sql := by
  cases p with
  | plain name =>
    obtain ⟨c, cs, hname, hbegins, hcontinues⟩ := h
    have hword : beginsWord c = true := by
      simp only [Identifier.beginsName, Bool.or_eq_true] at hbegins
      simp only [beginsWord, Bool.or_eq_true]
      exact Or.inl hbegins
    have hwords : ∀ d ∈ cs, continuesWord d = true := by
      intro d hd
      have hc := hcontinues d hd
      simp only [Identifier.continuesName, Char.isAlphanum, Bool.or_eq_true] at hc
      simp only [continuesWord, beginsWord, Bool.or_eq_true]
      tauto
    refine ⟨[word (c :: cs)], ⟨?_, tidy_singleton rfl rfl count opened⟩, by simp [isLiteral]⟩
    rw [Identifier.Part.sql, hname, scan_word hword hwords]
  | quoted name =>
    refine ⟨[quoted name.toList], ⟨?_, tidy_singleton rfl rfl count opened⟩, by simp [isLiteral]⟩
    exact scan_quoted name.toList

theorem harmless_parts {parts : List Identifier.Part} (hne : parts ≠ [])
    (h : ∀ p ∈ parts, p.IsProper) (count opened : Nat) :
    Harmless count 0 opened opened (Identifier.sqlOf parts) := by
  induction parts with
  | nil => exact absurd rfl hne
  | cons p parts ih =>
    obtain ⟨hp, hparts⟩ := List.forall_mem_cons.mp h
    have hfirst := harmless_part hp count opened
    cases parts with
    | nil => simpa [Identifier.sqlOf] using hfirst
    | cons q rest =>
      have hpoint : Harmless count 0 opened opened ['.'] := by
        have hplain : PlainText 0 0 ['.'] := by decide
        simpa using (hplain.harmless count).deeper opened
      have hsql : Identifier.sqlOf (p :: q :: rest) =
          p.sql ++ ['.'] ++ Identifier.sqlOf (q :: rest) := by
        simp [Identifier.sqlOf, List.intercalate]
      rw [hsql]
      have hfront := hfirst.append_of_head hpoint (c := '.') (by decide) rfl
      exact hfront.append_of_last (ih (by simp) hparts) (c := '.') (by decide) (by simp)

theorem harmless_placeholder (count opened : Nat) :
    Harmless count 1 opened opened ('$' :: (toString (count + 1)).toList) := by
  have hdigits : ∀ c ∈ (toString (count + 1)).toList, c.isDigit = true := by
    intro c hc
    rw [Text.toList_toString] at hc
    exact Text.isDigit_of_mem_decimal hc
  refine ⟨_, ⟨scan_placeholder hdigits, ?_, List.isChain_singleton _, rfl, rfl⟩, ?_⟩
  · simp
  · simp [isLiteral]

end Lexeme
end TableAccess
