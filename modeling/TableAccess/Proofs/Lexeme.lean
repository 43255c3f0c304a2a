import Mathlib.Data.List.Basic
import Mathlib.Tactic.Lemma

/-!
# Lexemes of SQL text

`Lexeme.scan` cuts a text into lexemes by the lexical rules of PostgreSQL, and `Lexeme.spelling`
writes a lexeme back. Scanning loses nothing, and at a blank, a comma, a point or a parenthesis a
text can be scanned in two halves.
-/

namespace TableAccess

/-- A lexical unit of SQL text. -/
inductive Lexeme where
  /-- An identifier without quotes. -/
  | word (cs : List Char)
  /-- An identifier in double quotes, which stand single in the name. -/
  | quoted (name : List Char)
  /-- A string in single quotes, which stand single in the text. -/
  | literal (text : List Char)
  /-- A dollar sign with the digits behind it. -/
  | placeholder (digits : List Char)
  /-- Any other character. -/
  | mark (c : Char)
  deriving DecidableEq, Repr

namespace Lexeme

/-- A character that begins an identifier: an underscore or a letter, as which PostgreSQL takes
every character beyond ASCII. -/
def beginsWord (c : Char) : Bool :=
  c == '_' || c.isAlpha || 0x80 ≤ c.toNat

/-- A character that continues an identifier. -/
def continuesWord (c : Char) : Bool :=
  beginsWord c || c.isDigit || c == '$'

/-- A text with each of its quotes doubled. -/
def doubled (quote : Char) (cs : List Char) : List Char :=
  cs.flatMap fun c => if c = quote then [quote, quote] else [c]

/-- A lexeme as it is written. -/
def spelling : Lexeme → List Char
  | word cs => cs
  | quoted name => '"' :: doubled '"' name ++ ['"']
  | literal text => '\'' :: doubled '\'' text ++ ['\'']
  | placeholder digits => '$' :: digits
  | mark c => [c]

/-- Where the scanner stands. -/
inductive Place where
  /-- Between two lexemes. -/
  | between
  | word (cs : List Char)
  | quoted (name : List Char)
  /-- Behind a double quote, which ends the name unless another one follows. -/
  | quotedEnd (name : List Char)
  | literal (text : List Char)
  /-- Behind a single quote, which ends the text unless another one follows. -/
  | literalEnd (text : List Char)
  | placeholder (digits : List Char)
  deriving DecidableEq, Repr

namespace Place

/-- The place behind a character that belongs to the lexeme of a place. -/
def next? : Place → Char → Option Place
  | between, _ => none
  | word cs, c => if continuesWord c then some (word (cs ++ [c])) else none
  | quoted name, c => some (if c = '"' then quotedEnd name else quoted (name ++ [c]))
  | quotedEnd name, c => if c = '"' then some (quoted (name ++ ['"'])) else none
  | literal text, c => some (if c = '\'' then literalEnd text else literal (text ++ [c]))
  | literalEnd text, c => if c = '\'' then some (literal (text ++ ['\''])) else none
  | placeholder digits, c => if c.isDigit then some (placeholder (digits ++ [c])) else none

/-- The lexeme that is complete at a place, if one has begun; a quote must not stay open. -/
def finish? : Place → Option (List Lexeme)
  | between => some []
  | word cs => some [.word cs]
  | quotedEnd name => some [.quoted name]
  | literalEnd text => some [.literal text]
  | placeholder digits => some [.placeholder digits]
  | quoted _ | literal _ => none

/-- What has been read of the lexeme of a place. -/
def spelling : Place → List Char
  | between => []
  | word cs => cs
  | quoted name => '"' :: doubled '"' name
  | quotedEnd name => '"' :: doubled '"' name ++ ['"']
  | literal text => '\'' :: doubled '\'' text
  | literalEnd text => '\'' :: doubled '\'' text ++ ['\'']
  | placeholder digits => '$' :: digits

end Place

/-- The lexeme that a character is on its own, if it is one, and the place behind it. -/
def start (c : Char) : List Lexeme × Place :=
  if c = '"' then ([], .quoted [])
  else if c = '\'' then ([], .literal [])
  else if c = '$' then ([], .placeholder [])
  else if beginsWord c then ([], .word [c])
  else ([mark c], .between)

/-- The lexemes of a text whose scanner stands at a place. -/
def scanFrom : Place → List Char → Option (List Lexeme)
  | place, [] => place.finish?
  | place, c :: cs =>
    match place.next? c with
    | some next => scanFrom next cs
    | none =>
      place.finish?.bind fun done =>
        (scanFrom (start c).2 cs).map fun rest => done ++ (start c).1 ++ rest

/-- The lexemes of a text; none if a quote stays open. -/
def scan (cs : List Char) : Option (List Lexeme) :=
  scanFrom .between cs

/-- Marks, words and placeholders each with its extent, and a quote inside a quoted name. -/
example : scan "a$1=$12 \"x\"\"$1\"".toList = some [.word "a$1".toList, .mark '=',
    .placeholder "12".toList, .mark ' ', .quoted "x\"$1".toList] := by decide

/-- A character that ends every lexeme before it and is none of the next one. -/
def isSpacer (c : Char) : Bool :=
  c == ' ' || c == ',' || c == '.' || c == '(' || c == ')'

lemma isSpacer_iff (c : Char) :
    isSpacer c = true ↔ c = ' ' ∨ c = ',' ∨ c = '.' ∨ c = '(' ∨ c = ')' := by
  simp [isSpacer, or_assoc]

lemma continuesWord_spacer {c : Char} (hc : isSpacer c = true) : continuesWord c = false := by
  rw [isSpacer_iff] at hc
  rcases hc with rfl | rfl | rfl | rfl | rfl <;> decide

lemma start_spacer {c : Char} (hc : isSpacer c = true) : start c = ([mark c], .between) := by
  rw [isSpacer_iff] at hc
  rcases hc with rfl | rfl | rfl | rfl | rfl <;> decide

lemma next?_spacer {place : Place} {c : Char} (hc : isSpacer c = true)
    (hp : place.finish?.isSome = true) : place.next? c = none := by
  have hword := continuesWord_spacer hc
  have hquote : c ≠ '"' ∧ c ≠ '\'' ∧ c.isDigit = false := by
    rw [isSpacer_iff] at hc
    rcases hc with rfl | rfl | rfl | rfl | rfl <;> decide
  cases place <;> simp_all [Place.next?, Place.finish?]

lemma finish?_next?_spacer {place next : Place} {c : Char} (hc : isSpacer c = true)
    (hn : place.next? c = some next) : next.finish? = none := by
  have hword := continuesWord_spacer hc
  have hquote : c ≠ '"' ∧ c ≠ '\'' ∧ c.isDigit = false := by
    rw [isSpacer_iff] at hc
    rcases hc with rfl | rfl | rfl | rfl | rfl <;> decide
  cases place <;> simp_all [Place.next?]
  all_goals
    subst hn
    rfl

lemma scanFrom_spacer {place : Place} {c : Char} {ls : List Lexeme} (hc : isSpacer c = true)
    (hp : place.finish? = some ls) (cs : List Char) :
    scanFrom place (c :: cs) = (scan cs).map fun ms => ls ++ mark c :: ms := by
  have hn := next?_spacer hc (by rw [hp]; rfl)
  rw [scanFrom, hn]
  simp [hp, start_spacer hc, scan]

/-- Text up to a spacer is scanned on its own, and so is the text behind it. -/
theorem scanFrom_append_spacer {place : Place} {cs : List Char} {ls : List Lexeme}
    (h : scanFrom place cs = some ls) {c : Char} (hc : isSpacer c = true) (ds : List Char) :
    scanFrom place (cs ++ c :: ds) = (scan ds).map fun ms => ls ++ mark c :: ms := by
  induction cs generalizing place ls with
  | nil => exact scanFrom_spacer hc h ds
  | cons d cs ih =>
    rw [List.cons_append, scanFrom]
    rw [scanFrom] at h
    cases hn : place.next? d with
    | some next =>
      rw [hn] at h
      exact ih h
    | none =>
      simp only [hn, Option.bind_eq_some_iff, Option.map_eq_some_iff] at h
      obtain ⟨done, hdone, rest, hrest, rfl⟩ := h
      simp only [hdone, ih hrest, Option.bind_some, Option.map_map]
      congr 1
      funext ms
      simp

/-- A spacer at the end of a text is the last of its lexemes. -/
theorem scanFrom_snoc_spacer {place : Place} {cs : List Char} {ls : List Lexeme} {c : Char}
    (hc : isSpacer c = true) (h : scanFrom place (cs ++ [c]) = some ls) :
    ∃ ms, scanFrom place cs = some ms ∧ ls = ms ++ [mark c] := by
  induction cs generalizing place ls with
  | nil =>
    rw [List.nil_append, scanFrom] at h
    cases hn : place.next? c with
    | some next =>
      -- the spacer would lie inside quotes that nothing closes
      have hnone := finish?_next?_spacer hc hn
      simp [hn, scanFrom, hnone] at h
    | none =>
      simp only [hn, Option.bind_eq_some_iff, Option.map_eq_some_iff, start_spacer hc] at h
      obtain ⟨done, hdone, rest, hrest, rfl⟩ := h
      have hempty : rest = [] := by simpa [scanFrom, Place.finish?] using hrest.symm
      exact ⟨done, hdone, by rw [hempty, List.append_nil]⟩
  | cons d cs ih =>
    rw [List.cons_append, scanFrom] at h
    rw [scanFrom]
    cases hn : place.next? d with
    | some next =>
      rw [hn] at h
      exact ih h
    | none =>
      simp only [hn, Option.bind_eq_some_iff, Option.map_eq_some_iff] at h
      obtain ⟨done, hdone, rest, hrest, rfl⟩ := h
      obtain ⟨ms, hms, rfl⟩ := ih hrest
      exact ⟨done ++ (start d).1 ++ ms, by simp [hdone, hms], by simp⟩

lemma scan_spacer_cons {c : Char} (hc : isSpacer c = true) (cs : List Char) :
    scan (c :: cs) = (scan cs).map (mark c :: ·) := by
  have hbetween : Place.between.finish? = some [] := rfl
  have h := scanFrom_spacer hc hbetween cs
  simpa [scan] using h

theorem scan_append_of_head {cs ds : List Char} {ls ms : List Lexeme} (hcs : scan cs = some ls)
    (hds : scan ds = some ms) {c : Char} (hc : isSpacer c = true) (hhead : ds.head? = some c) :
    scan (cs ++ ds) = some (ls ++ ms) := by
  obtain ⟨es, rfl⟩ : ∃ es, ds = c :: es := List.head?_eq_some_iff.mp hhead
  rw [scan_spacer_cons hc, Option.map_eq_some_iff] at hds
  obtain ⟨rest, hrest, rfl⟩ := hds
  rw [scan, scanFrom_append_spacer hcs hc, hrest]
  rfl

theorem scan_append_of_last {cs ds : List Char} {ls ms : List Lexeme} (hcs : scan cs = some ls)
    (hds : scan ds = some ms) {c : Char} (hc : isSpacer c = true) (hlast : cs.getLast? = some c) :
    scan (cs ++ ds) = some (ls ++ ms) := by
  obtain ⟨es, rfl⟩ : ∃ es, cs = es ++ [c] := List.getLast?_eq_some_iff.mp hlast
  obtain ⟨front, hfront, rfl⟩ := scanFrom_snoc_spacer hc hcs
  rw [List.append_assoc, List.singleton_append, scan, scanFrom_append_spacer hfront hc, hds]
  simp

lemma next?_spelling {place next : Place} {c : Char} (h : place.next? c = some next) :
    next.spelling = place.spelling ++ [c] := by
  cases place with
  | between => simp [Place.next?] at h
  | word cs | placeholder cs =>
    simp only [Place.next?, Option.ite_none_right_eq_some, Option.some.injEq] at h
    rw [← h.2]
    rfl
  | quoted name | literal name =>
    simp only [Place.next?, Option.some.injEq] at h
    rw [← h]
    split <;> simp_all [Place.spelling, doubled]
  | quotedEnd name | literalEnd name =>
    simp only [Place.next?, Option.ite_none_right_eq_some, Option.some.injEq] at h
    obtain ⟨rfl, rfl⟩ := h
    simp [Place.spelling, doubled]

lemma finish?_spelling {place : Place} {ls : List Lexeme} (h : place.finish? = some ls) :
    ls.flatMap spelling = place.spelling := by
  cases place <;> simp_all [Place.finish?] <;> subst h <;> simp [spelling, Place.spelling]

lemma start_spelling (c : Char) :
    (start c).1.flatMap spelling ++ (start c).2.spelling = [c] := by
  unfold start
  split_ifs with hq hs hd hw <;> simp [*, Place.spelling, spelling, doubled]

theorem scanFrom_spelling {place : Place} {cs : List Char} {ls : List Lexeme}
    (h : scanFrom place cs = some ls) : ls.flatMap spelling = place.spelling ++ cs := by
  induction cs generalizing place ls with
  | nil => rw [finish?_spelling h, List.append_nil]
  | cons c cs ih =>
    rw [scanFrom] at h
    cases hn : place.next? c with
    | some next =>
      rw [hn] at h
      rw [ih h, next?_spelling hn, List.append_assoc, List.singleton_append]
    | none =>
      simp only [hn, Option.bind_eq_some_iff, Option.map_eq_some_iff] at h
      obtain ⟨done, hdone, rest, hrest, rfl⟩ := h
      rw [List.flatMap_append, List.flatMap_append, finish?_spelling hdone, ih hrest,
        List.append_assoc, ← List.append_assoc _ _ cs, start_spelling, List.singleton_append]

/-- Scanning loses nothing: the lexemes spell the text. -/
theorem spelling_of_scan {cs : List Char} {ls : List Lexeme} (h : scan cs = some ls) :
    ls.flatMap spelling = cs :=
  scanFrom_spelling h

/-- What is known of the characters of a lexeme. -/
def IsProper : Lexeme → Prop
  | word cs => ∀ c ∈ cs, continuesWord c = true
  | placeholder digits => ∀ c ∈ digits, c.isDigit = true
  | _ => True

/-- What is known of the characters that have been read of a lexeme. -/
def Place.IsProper : Place → Prop
  | word cs => ∀ c ∈ cs, continuesWord c = true
  | placeholder digits => ∀ c ∈ digits, c.isDigit = true
  | _ => True

lemma next?_isProper {place next : Place} {c : Char} (h : place.next? c = some next)
    (hp : place.IsProper) : next.IsProper := by
  cases place with
  | between => simp [Place.next?] at h
  | word cs | placeholder cs =>
    simp only [Place.next?, Option.ite_none_right_eq_some, Option.some.injEq] at h
    obtain ⟨hc, rfl⟩ := h
    simp only [Place.IsProper, List.mem_append, List.mem_singleton] at hp ⊢
    rintro d (hd | rfl)
    · exact hp d hd
    · exact hc
  | quoted name | literal name =>
    simp only [Place.next?, Option.some.injEq] at h
    rw [← h]
    split <;> trivial
  | quotedEnd name | literalEnd name =>
    simp only [Place.next?, Option.ite_none_right_eq_some, Option.some.injEq] at h
    rw [← h.2]
    trivial

lemma finish?_isProper {place : Place} {ls : List Lexeme} (h : place.finish? = some ls)
    (hp : place.IsProper) : ∀ l ∈ ls, l.IsProper := by
  cases place <;> simp_all [Place.finish?, Place.IsProper] <;> subst h <;> simp_all [IsProper]

lemma start_isProper (c : Char) : (∀ l ∈ (start c).1, l.IsProper) ∧ (start c).2.IsProper := by
  unfold start
  split_ifs with hq hs hd hw <;> simp [IsProper, Place.IsProper, continuesWord, *]

theorem scanFrom_isProper {place : Place} {cs : List Char} {ls : List Lexeme}
    (h : scanFrom place cs = some ls) (hp : place.IsProper) : ∀ l ∈ ls, l.IsProper := by
  induction cs generalizing place ls with
  | nil => exact finish?_isProper h hp
  | cons c cs ih =>
    rw [scanFrom] at h
    cases hn : place.next? c with
    | some next =>
      rw [hn] at h
      exact ih h (next?_isProper hn hp)
    | none =>
      simp only [hn, Option.bind_eq_some_iff, Option.map_eq_some_iff] at h
      obtain ⟨done, hdone, rest, hrest, rfl⟩ := h
      obtain ⟨hbegun, hnext⟩ := start_isProper c
      intro l hl
      simp only [List.mem_append] at hl
      rcases hl with (hl | hl) | hl
      · exact finish?_isProper hdone hp l hl
      · exact hbegun l hl
      · exact ih hrest hnext l hl

theorem isProper_of_scan {cs : List Char} {ls : List Lexeme} (h : scan cs = some ls) :
    ∀ l ∈ ls, l.IsProper :=
  scanFrom_isProper h trivial

lemma next?_finish? {place next : Place} {c : Char} (hn : place.next? c = some next)
    (hp : place.finish?.isSome = true) (hc : c ≠ '"' ∧ c ≠ '\'') : next.finish?.isSome = true := by
  cases place with
  | between => simp [Place.next?] at hn
  | word cs | placeholder cs =>
    simp only [Place.next?, Option.ite_none_right_eq_some, Option.some.injEq] at hn
    rw [← hn.2]
    rfl
  | quoted name | literal name => simp [Place.finish?] at hp
  | quotedEnd name | literalEnd name => simp [Place.next?, hc] at hn

lemma start_finish? {c : Char} (hc : c ≠ '"' ∧ c ≠ '\'') : (start c).2.finish?.isSome = true := by
  unfold start
  split_ifs <;> simp_all [Place.finish?]

/-- Text without quotes can be scanned. -/
theorem scanFrom_isSome {place : Place} {cs : List Char} (hp : place.finish?.isSome = true)
    (hcs : ∀ c ∈ cs, c ≠ '"' ∧ c ≠ '\'') : (scanFrom place cs).isSome = true := by
  induction cs generalizing place with
  | nil => exact hp
  | cons c cs ih =>
    obtain ⟨hc, hrest⟩ := List.forall_mem_cons.mp hcs
    rw [scanFrom]
    cases hn : place.next? c with
    | some next => exact ih (next?_finish? hn hp hc) hrest
    | none =>
      obtain ⟨done, hdone⟩ := Option.isSome_iff_exists.mp hp
      simp [hdone, ih (start_finish? hc) hrest]

lemma scanFrom_word (name : List Char) {cs : List Char}
    (hcs : ∀ c ∈ cs, continuesWord c = true) :
    scanFrom (.word name) cs = some [word (name ++ cs)] := by
  induction cs generalizing name with
  | nil => simp [scanFrom, Place.finish?]
  | cons c cs ih =>
    obtain ⟨hc, hrest⟩ := List.forall_mem_cons.mp hcs
    have hn : Place.next? (.word name) c = some (.word (name ++ [c])) := by
      simp [Place.next?, hc]
    rw [scanFrom, hn]
    simp only [ih (name ++ [c]) hrest, List.append_assoc, List.singleton_append]

theorem scan_word {c : Char} {cs : List Char} (hc : beginsWord c = true)
    (hcs : ∀ d ∈ cs, continuesWord d = true) : scan (c :: cs) = some [word (c :: cs)] := by
  have hstart : start c = ([], .word [c]) := by
    have hne : c ≠ '"' ∧ c ≠ '\'' ∧ c ≠ '$' := by
      refine ⟨?_, ?_, ?_⟩ <;> rintro rfl <;> exact absurd hc (by decide)
    simp [start, hne, hc]
  rw [scan, scanFrom]
  simp [Place.next?, Place.finish?, hstart, scanFrom_word [c] hcs]

lemma scanFrom_quoted (front name : List Char) :
    scanFrom (.quoted front) (doubled '"' name ++ ['"']) = some [quoted (front ++ name)] := by
  induction name generalizing front with
  | nil => simp [doubled, scanFrom, Place.next?, Place.finish?]
  | cons c cs ih =>
    have hfront := ih (front ++ [c])
    by_cases hc : c = '"'
    · subst hc
      simpa [doubled, scanFrom, Place.next?] using hfront
    · simpa [doubled, scanFrom, Place.next?, hc] using hfront

theorem scan_quoted (name : List Char) : scan (quoted name).spelling = some [quoted name] := by
  have h := scanFrom_quoted [] name
  simpa [scan, scanFrom, spelling, Place.next?, Place.finish?, start] using h

lemma scanFrom_placeholder (front : List Char) {digits : List Char}
    (h : ∀ c ∈ digits, c.isDigit = true) :
    scanFrom (.placeholder front) digits = some [placeholder (front ++ digits)] := by
  induction digits generalizing front with
  | nil => simp [scanFrom, Place.finish?]
  | cons c cs ih =>
    obtain ⟨hc, hrest⟩ := List.forall_mem_cons.mp h
    have hn : Place.next? (.placeholder front) c = some (.placeholder (front ++ [c])) := by
      simp [Place.next?, hc]
    rw [scanFrom, hn]
    simp only [ih (front ++ [c]) hrest, List.append_assoc, List.singleton_append]

theorem scan_placeholder {digits : List Char} (h : ∀ c ∈ digits, c.isDigit = true) :
    scan ('$' :: digits) = some [placeholder digits] := by
  have hd := scanFrom_placeholder [] h
  simpa [scan, scanFrom, Place.next?, Place.finish?, start] using hd

end Lexeme
end TableAccess
