import TableAccess.Proofs.Identifier

/-!
# The grammar of identifiers

`Identifier.Spelling` cuts a text into the parts of an identifier without saying how it is read:
the pieces between the dots are plain names and names in quotes, whose own quotes are doubled.
`Identifier.parse` accepts exactly the texts that can be cut so, in the one way in which they can,
and `Identifier.sql` gives the text back.
-/

namespace TableAccess
namespace Identifier

def IsLetter (c : Char) : Prop :=
  ('A' ≤ c ∧ c ≤ 'Z') ∨ ('a' ≤ c ∧ c ≤ 'z')

instance (c : Char) : Decidable (IsLetter c) :=
  inferInstanceAs (Decidable (_ ∨ _))

/-- A name that needs no quotes. -/
def IsPlainName : List Char → Prop
  | [] => False
  | c :: cs => (c = '_' ∨ IsLetter c) ∧
      ∀ d ∈ cs, d = '_' ∨ d = '$' ∨ IsLetter d ∨ ('0' ≤ d ∧ d ≤ '9')

instance : DecidablePred IsPlainName
  | [] => isFalse id
  | _ :: cs => @instDecidableAnd _ _ inferInstance (List.decidableBAll _ cs)

/-- A name and how it is written between quotes. -/
inductive IsDoubled : List Char → List Char → Prop where
  | nil : IsDoubled [] []
  | quote {name text : List Char} (h : IsDoubled name text) :
      IsDoubled ('"' :: name) ('"' :: '"' :: text)
  | other {c : Char} {name text : List Char} (hc : c ≠ '"') (h : IsDoubled name text) :
      IsDoubled (c :: name) (c :: text)

/-- A part and the piece of text that stands for it. -/
inductive Part.IsSpelled : Part → List Char → Prop where
  | plain {name : String} (h : IsPlainName name.toList) : IsSpelled (.plain name) name.toList
  | quoted {name : String} {text : List Char} (hne : name ≠ "")
      (h : IsDoubled name.toList text) : IsSpelled (.quoted name) ('"' :: text ++ ['"'])

/-- A text cut at the dots between its parts. -/
structure Spelling (s : String) (parts : List Part) (pieces : List (List Char)) : Prop where
  nonempty : parts ≠ []
  spelled : List.Forall₂ Part.IsSpelled parts pieces
  joined : s.toList = ['.'].intercalate pieces
  noNul : '\x00' ∉ s.toList

/-- A part that can be written: a name that needs no quotes, or any name but the empty one. -/
def Part.IsWellFormed : Part → Prop
  | .plain name => IsPlainName name.toList
  | .quoted name => name ≠ "" ∧ '\x00' ∉ name.toList

instance : DecidablePred Part.IsWellFormed
  | .plain name => inferInstanceAs (Decidable (IsPlainName name.toList))
  | .quoted _ => inferInstanceAs (Decidable (_ ∧ _))

section Characters

variable {c : Char}

lemma isAlpha_iff : c.isAlpha = true ↔ IsLetter c := by
  change (decide ('A' ≤ c ∧ c ≤ 'Z') || (decide ('a' ≤ c) && decide (c ≤ 'z'))) = true ↔ _
  simp only [IsLetter, Bool.or_eq_true, Bool.and_eq_true, decide_eq_true_eq]

lemma isDigit_iff : c.isDigit = true ↔ '0' ≤ c ∧ c ≤ '9' := by
  change (decide ('0' ≤ c) && decide (c ≤ '9')) = true ↔ _
  simp only [Bool.and_eq_true, decide_eq_true_eq]

lemma beginsName_iff : beginsName c = true ↔ c = '_' ∨ IsLetter c := by
  simp only [beginsName, Bool.or_eq_true, beq_iff_eq, isAlpha_iff]

lemma continuesName_iff :
    continuesName c = true ↔ c = '_' ∨ c = '$' ∨ IsLetter c ∨ ('0' ≤ c ∧ c ≤ '9') := by
  simp only [continuesName, Char.isAlphanum, Bool.or_eq_true, beq_iff_eq, isAlpha_iff,
    isDigit_iff, or_assoc]

lemma continuesName_of_beginsName (h : beginsName c = true) : continuesName c = true := by
  rw [beginsName_iff] at h
  rw [continuesName_iff]
  tauto

end Characters

lemma isPlainName_iff (name : List Char) :
    IsPlainName name ↔ ∃ c cs, name = c :: cs ∧ beginsName c = true ∧
      ∀ d ∈ cs, continuesName d = true := by
  cases name with
  | nil => simp [IsPlainName]
  | cons c cs => simp [IsPlainName, beginsName_iff, continuesName_iff]

lemma Part.isProper_iff {p : Part} : p.IsProper ↔ p.IsWellFormed := by
  cases p with
  | plain name => exact (isPlainName_iff name.toList).symm
  | quoted name => simp [Part.IsProper, Part.IsWellFormed]

/-- A name with its quotes doubled. -/
def doubled (name : List Char) : List Char :=
  name.flatMap fun c => if c = '"' then ['"', '"'] else [c]

lemma doubled_cons (c : Char) (name : List Char) :
    doubled (c :: name) = (if c = '"' then ['"', '"'] else [c]) ++ doubled name := by
  rw [doubled, List.flatMap_cons, doubled]

lemma doubled_snoc (name : List Char) (c : Char) :
    doubled (name ++ [c]) = doubled name ++ if c = '"' then ['"', '"'] else [c] := by
  simp [doubled]

lemma isDoubled_iff {name text : List Char} : IsDoubled name text ↔ text = doubled name := by
  constructor
  · intro h
    induction h with
    | nil => rfl
    | quote _ ih => rw [ih, doubled_cons, if_pos rfl]; rfl
    | other hc _ ih => rw [ih, doubled_cons, if_neg hc]; rfl
  · rintro rfl
    induction name with
    | nil => exact .nil
    | cons c name ih =>
      rw [doubled_cons]
      split_ifs with hc
      · rw [hc]
        exact .quote ih
      · exact .other hc ih

/-! ## Writing -/

lemma Part.sql_quoted (name : String) :
    (Part.quoted name).sql = '"' :: doubled name.toList ++ ['"'] := (rfl)

lemma sqlOf_singleton (p : Part) : sqlOf [p] = p.sql := by
  simp [sqlOf]

lemma sqlOf_cons (p : Part) {rest : List Part} (hrest : rest ≠ []) :
    sqlOf (p :: rest) = p.sql ++ '.' :: sqlOf rest := by
  cases rest with
  | nil => exact absurd rfl hrest
  | cons q rest => simp [sqlOf, List.intercalate_cons_cons]

lemma nul_not_mem_doubled {name : List Char} (h : '\x00' ∉ name) : '\x00' ∉ doubled name := by
  rw [doubled, List.mem_flatMap]
  rintro ⟨c, hc, hmem⟩
  split_ifs at hmem
  · exact absurd hmem (by decide)
  · rw [List.mem_singleton] at hmem
    exact h (hmem ▸ hc)

lemma Part.IsProper.nul_not_mem {p : Part} (h : p.IsProper) : '\x00' ∉ p.sql := by
  cases p with
  | plain name =>
    obtain ⟨c, cs, hname, hc, hcs⟩ := h
    have hnul : continuesName '\x00' = false ∧ beginsName '\x00' = false := by decide
    rw [Part.sql, hname, List.mem_cons, not_or]
    constructor
    · rintro rfl
      exact absurd hc (by simp [hnul.2])
    · intro hmem
      exact absurd (hcs _ hmem) (by simp [hnul.1])
  | quoted name =>
    have hquote : '\x00' ≠ '"' := by decide
    rw [Part.sql_quoted]
    simp [nul_not_mem_doubled h.2, hquote]

lemma nul_not_mem_sqlOf {parts : List Part} (h : ∀ p ∈ parts, p.IsProper) :
    '\x00' ∉ sqlOf parts := by
  induction parts with
  | nil => simp [sqlOf]
  | cons p rest ih =>
    obtain ⟨hp, hrest⟩ := List.forall_mem_cons.mp h
    by_cases hne : rest = []
    · rw [hne, sqlOf_singleton]
      exact hp.nul_not_mem
    · have hdot : '\x00' ≠ '.' := by decide
      rw [sqlOf_cons p hne]
      simp [hp.nul_not_mem, hdot, ih hrest]

lemma Part.IsProper.sql_ne_nil {p : Part} (h : p.IsProper) : p.sql ≠ [] := by
  cases p with
  | plain name =>
    obtain ⟨c, cs, hname, -⟩ := h
    simp [Part.sql, hname]
  | quoted name => simp [Part.sql]

lemma IsProper.sql_ne_nil {i : Identifier} (h : i.IsProper) : sqlOf i.parts ≠ [] := by
  obtain ⟨hne, hparts⟩ := h
  cases hi : i.parts with
  | nil => exact absurd hi hne
  | cons p rest =>
    have hp := (hparts p (by simp [hi])).sql_ne_nil
    by_cases hrest : rest = []
    · rwa [hrest, sqlOf_singleton]
    · simp [sqlOf_cons p hrest, hp]

/-! ## What is written is read -/

section Read

variable {text : String} {parts : List Part}

lemma read_plain {cs : List Char} (hcs : ∀ c ∈ cs, continuesName c = true)
    (name rest : List Char) :
    read text parts (.plain name) (cs ++ rest) = read text parts (.plain (name ++ cs)) rest := by
  induction cs generalizing name with
  | nil => rw [List.nil_append, List.append_nil]
  | cons c cs ih =>
    obtain ⟨hc, hcs⟩ := List.forall_mem_cons.mp hcs
    have hdot : c ≠ '.' := by
      rintro rfl
      exact absurd hc (by decide)
    rw [List.cons_append, read, if_neg hdot, if_pos hc, ih hcs, List.append_assoc,
      List.singleton_append]

lemma read_doubled (name cs rest : List Char) :
    read text parts (.quoted name) (doubled cs ++ rest) =
      read text parts (.quoted (name ++ cs)) rest := by
  induction cs generalizing name with
  | nil => rw [List.append_nil]; rfl
  | cons c cs ih =>
    rw [doubled_cons]
    split_ifs with hc
    · rw [hc, List.append_assoc, List.cons_append, read, if_pos rfl, List.cons_append, read,
        if_pos rfl, List.nil_append, ih, List.append_assoc, List.singleton_append]
    · rw [List.append_assoc, List.singleton_append, read, if_neg hc, ih, List.append_assoc,
        List.singleton_append]

/-- Where the reader stands behind a part that has no more characters. -/
def Part.place : Part → Place
  | .plain name => .plain name.toList
  | .quoted name => .closing name.toList

lemma read_part {p : Part} (hp : p.IsProper) (rest : List Char) :
    read text parts .before (p.sql ++ rest) = read text parts p.place rest := by
  cases p with
  | plain name =>
    obtain ⟨c, cs, hname, hc, hcs⟩ := hp
    have hquote : c ≠ '"' := by
      rintro rfl
      exact absurd hc (by decide)
    have hdot : c ≠ '.' := by
      rintro rfl
      exact absurd hc (by decide)
    rw [Part.sql, Part.place, hname, List.cons_append, read, if_neg hquote, if_neg hdot,
      if_pos hc, read_plain hcs, List.singleton_append]
  | quoted name =>
    rw [Part.sql_quoted, Part.place, List.cons_append, List.cons_append, read, if_pos rfl,
      List.append_assoc, read_doubled, List.nil_append, List.singleton_append, read, if_pos rfl]

lemma read_place_nil {p : Part} (hp : p.IsProper) :
    read text parts p.place [] = .ok (parts ++ [p]) := by
  cases p with
  | plain name => rw [Part.place, read, String.ofList_toList]
  | quoted name =>
    rw [Part.place, read, if_neg (by simpa using hp.1), String.ofList_toList]

lemma read_place_dot {p : Part} (hp : p.IsProper) (rest : List Char) :
    read text parts p.place ('.' :: rest) = read text (parts ++ [p]) .before rest := by
  cases p with
  | plain name => rw [Part.place, read, if_pos rfl, String.ofList_toList]
  | quoted name =>
    rw [Part.place, read, if_neg (by decide), if_neg (by simpa using hp.1), if_pos rfl,
      String.ofList_toList]

theorem read_sqlOf {more : List Part} (hne : more ≠ []) (hmore : ∀ p ∈ more, p.IsProper) :
    read text parts .before (sqlOf more) = .ok (parts ++ more) := by
  induction more generalizing parts with
  | nil => exact absurd rfl hne
  | cons p rest ih =>
    obtain ⟨hp, hrest⟩ := List.forall_mem_cons.mp hmore
    by_cases hnil : rest = []
    · rw [hnil, sqlOf_singleton, ← List.append_nil p.sql, read_part hp, read_place_nil hp]
    · rw [sqlOf_cons p hnil, read_part hp, read_place_dot hp, ih hnil hrest, List.append_assoc,
        List.singleton_append]

/-! ## What is read was written -/

/-- What the reader has seen of the part in which it stands. -/
def Place.seen : Place → List Char
  | .before => []
  | .plain name => name
  | .quoted name => '"' :: doubled name
  | .closing name => '"' :: doubled name ++ ['"']

/-- The parts found behind the finished ones have the given text. -/
def FoundBehind (parts found : List Part) (cs : List Char) : Prop :=
  ∃ more, more ≠ [] ∧ found = parts ++ more ∧ sqlOf more = cs

lemma foundBehind_last (parts : List Part) (p : Part) : FoundBehind parts (parts ++ [p]) p.sql :=
  ⟨[p], by simp, rfl, sqlOf_singleton p⟩

lemma FoundBehind.dot {found : List Part} {p : Part} {cs : List Char}
    (h : FoundBehind (parts ++ [p]) found cs) : FoundBehind parts found (p.sql ++ '.' :: cs) := by
  obtain ⟨more, hne, hfound, hsql⟩ := h
  refine ⟨p :: more, by simp, ?_, ?_⟩
  · rw [hfound, List.append_assoc, List.singleton_append]
  · rw [sqlOf_cons p hne, hsql]

/-- The text behind the finished parts is that of the parts that are found from there on. -/
theorem foundBehind_of_read {place : Place} {cs : List Char} {found : List Part}
    (h : read text parts place cs = .ok found) :
    FoundBehind parts found (place.seen ++ cs) := by
  induction cs generalizing parts place with
  | nil =>
    rw [List.append_nil]
    cases place with
    | before | quoted name => simp [read] at h
    | plain name =>
      simp only [read, Except.ok.injEq] at h
      subst h
      simpa [Part.sql, Place.seen] using foundBehind_last parts (.plain (String.ofList name))
    | closing name =>
      simp only [read] at h
      split_ifs at h with hname
      simp only [Except.ok.injEq] at h
      subst h
      simpa [Part.sql_quoted, Place.seen] using
        foundBehind_last parts (.quoted (String.ofList name))
  | cons c cs ih =>
    cases place with
    | before =>
      simp only [read] at h
      split_ifs at h with hquote hdot hbegins
      · subst hquote
        exact ih h
      · exact ih h
    | plain name =>
      simp only [read] at h
      split_ifs at h with hdot hcontinues
      · subst hdot
        simpa [Part.sql, Place.seen] using (ih h).dot
      · simpa [Place.seen] using ih h
    | quoted name =>
      simp only [read] at h
      split_ifs at h with hquote
      · subst hquote
        simpa [Place.seen] using ih h
      · simpa [Place.seen, doubled_snoc, hquote] using ih h
    | closing name =>
      simp only [read] at h
      split_ifs at h with hquote hname hdot
      · subst hquote
        simpa [Place.seen, doubled_snoc] using ih h
      · subst hdot
        simpa [Part.sql_quoted, Place.seen] using (ih h).dot

end Read

theorem parse_eq_ok_iff {s : String} {i : Identifier} :
    parse s = .ok i ↔ i.IsProper ∧ i.sql = s := by
  constructor
  · intro h
    refine ⟨parse_isProper h, ?_⟩
    rw [parse] at h
    split_ifs at h with hempty hnul
    obtain ⟨found, hfound, hi⟩ := map_eq_ok_iff.mp h
    obtain ⟨more, -, hmore, hsql⟩ := foundBehind_of_read hfound
    rw [List.nil_append] at hmore
    rw [sql, ← hi, hmore, hsql, Place.seen, List.nil_append, String.ofList_toList]
  · rintro ⟨hproper, rfl⟩
    have hnul : '\x00' ∉ sqlOf i.parts := nul_not_mem_sqlOf hproper.2
    rw [parse, sql, String.toList_ofList, if_neg (by simpa using hproper.sql_ne_nil),
      if_neg (by simpa using hnul), read_sqlOf hproper.1 hproper.2]
    rfl

/-- What an identifier is written as is read as that identifier. -/
lemma parse_sql {s : String} {i : Identifier} (h : parse s = .ok i) : parse i.sql = .ok i := by
  rwa [(parse_eq_ok_iff.mp h).2]

/-! ## The grammar -/

lemma Part.isSpelled_iff {p : Part} {piece : List Char} :
    p.IsSpelled piece ∧ '\x00' ∉ piece ↔ p.IsProper ∧ piece = p.sql := by
  constructor
  · rintro ⟨h, hnul⟩
    cases h with
    | plain h => exact ⟨Part.isProper_iff.mpr h, rfl⟩
    | @quoted name text hne h =>
      rw [isDoubled_iff] at h
      subst h
      refine ⟨⟨by simpa using hne, ?_⟩, rfl⟩
      intro hmem
      apply hnul
      have hdoubled : '\x00' ∈ doubled name.toList :=
        List.mem_flatMap.mpr ⟨_, hmem, by decide⟩
      simp [hdoubled]
  · rintro ⟨h, rfl⟩
    refine ⟨?_, h.nul_not_mem⟩
    cases p with
    | plain name => exact .plain (Part.isProper_iff.mp h)
    | quoted name => exact .quoted (by simpa using h.1) (isDoubled_iff.mpr rfl)

lemma subset_intercalate {piece : List Char} {pieces : List (List Char)} (h : piece ∈ pieces) :
    piece ⊆ ['.'].intercalate pieces := by
  induction pieces with
  | nil => simp at h
  | cons first rest ih =>
    cases rest with
    | nil =>
      rw [List.mem_singleton] at h
      rw [h, List.intercalate_singleton]
      exact List.Subset.refl first
    | cons second rest =>
      rw [List.intercalate_cons_cons]
      rcases List.mem_cons.mp h with rfl | h
      · exact List.subset_append_of_subset_left _ (List.subset_append_left _ _)
      · exact List.subset_append_of_subset_right _ (ih h)

lemma forall₂_isSpelled_iff {parts : List Part} {pieces : List (List Char)} :
    List.Forall₂ Part.IsSpelled parts pieces ∧ (∀ piece ∈ pieces, '\x00' ∉ piece) ↔
      (∀ p ∈ parts, p.IsProper) ∧ pieces = parts.map Part.sql := by
  constructor
  · rintro ⟨h, hnul⟩
    induction h with
    | nil => simp
    | @cons p piece parts pieces hp _ ih =>
      obtain ⟨hpiece, hpieces⟩ := List.forall_mem_cons.mp hnul
      obtain ⟨hproper, rfl⟩ := Part.isSpelled_iff.mp ⟨hp, hpiece⟩
      obtain ⟨hparts, rfl⟩ := ih hpieces
      exact ⟨List.forall_mem_cons.mpr ⟨hproper, hparts⟩, rfl⟩
  · rintro ⟨h, rfl⟩
    induction parts with
    | nil => simp
    | cons p parts ih =>
      obtain ⟨hp, hparts⟩ := List.forall_mem_cons.mp h
      obtain ⟨hspelled, hpiece⟩ := Part.isSpelled_iff.mpr ⟨hp, rfl⟩
      obtain ⟨hrest, hpieces⟩ := ih hparts
      exact ⟨.cons hspelled hrest, List.forall_mem_cons.mpr ⟨hpiece, hpieces⟩⟩

/-- A text can only be cut into what is written for the parts. -/
theorem spelling_iff {s : String} {parts : List Part} {pieces : List (List Char)} :
    Spelling s parts pieces ↔
      parse s = .ok ⟨parts⟩ ∧ pieces = parts.map Part.sql := by
  rw [parse_eq_ok_iff]
  constructor
  · rintro ⟨hne, hspelled, hjoined, hnul⟩
    have hpieces : ∀ piece ∈ pieces, '\x00' ∉ piece := by
      intro piece hpiece hmem
      rw [hjoined] at hnul
      exact hnul (subset_intercalate hpiece hmem)
    obtain ⟨hproper, rfl⟩ := forall₂_isSpelled_iff.mp ⟨hspelled, hpieces⟩
    refine ⟨⟨⟨hne, hproper⟩, ?_⟩, rfl⟩
    rw [sql, sqlOf, ← hjoined, String.ofList_toList]
  · rintro ⟨⟨hproper, rfl⟩, rfl⟩
    obtain ⟨hspelled, -⟩ := forall₂_isSpelled_iff.mpr ⟨hproper.2, rfl⟩
    have htext : (sql ⟨parts⟩).toList = sqlOf parts := String.toList_ofList
    refine ⟨hproper.1, hspelled, htext, ?_⟩
    rw [htext]
    exact nul_not_mem_sqlOf hproper.2

/-- Exactly the texts of the grammar are read. A text that is read can be cut in one way only,
which gives the parts of the identifier, and the identifier is written as that text. Parts that
can be written are read back. -/
theorem parse_follows_grammar :
    (∀ s, (∃ i, parse s = .ok i) ↔ ∃ parts pieces, Spelling s parts pieces) ∧
    (∀ s i, parse s = .ok i → i.sql = s ∧ ∃ pieces, Spelling s i.parts pieces ∧
      ∀ otherParts otherPieces, Spelling s otherParts otherPieces →
        otherParts = i.parts ∧ otherPieces = pieces) ∧
    ∀ parts, parts ≠ [] → (∀ p ∈ parts, Part.IsWellFormed p) →
      parse (sql ⟨parts⟩) = .ok ⟨parts⟩ := by
  refine ⟨fun s => ⟨?_, ?_⟩, ?_, ?_⟩
  · rintro ⟨i, hi⟩
    exact ⟨i.parts, _, spelling_iff.mpr ⟨hi, rfl⟩⟩
  · rintro ⟨parts, pieces, h⟩
    exact ⟨⟨parts⟩, (spelling_iff.mp h).1⟩
  · intro s i hi
    refine ⟨(parse_eq_ok_iff.mp hi).2, _, spelling_iff.mpr ⟨hi, rfl⟩, ?_⟩
    intro otherParts otherPieces h
    obtain ⟨hother, rfl⟩ := spelling_iff.mp h
    rw [hi, Except.ok.injEq] at hother
    rw [hother]
    exact ⟨rfl, rfl⟩
  · intro parts hne hparts
    have hproper : ∀ p ∈ parts, p.IsProper := fun p hp => Part.isProper_iff.mpr (hparts p hp)
    exact parse_eq_ok_iff.mpr ⟨⟨hne, hproper⟩, rfl⟩

/-- The dot and the quote between the outer quotes belong to the name. -/
theorem parse_follows_grammar_quoted :
    let order : Identifier := ⟨[.plain "public", .quoted "a\"b.c"]⟩
    order.parts ≠ [] ∧ (∀ p ∈ order.parts, p.IsWellFormed) ∧ parse order.sql = .ok order ∧
      order.sql = "public.\"a\"\"b.c\"" ∧
      ∃ pieces, Spelling order.sql order.parts pieces ∧
        ∀ otherParts otherPieces, Spelling order.sql otherParts otherPieces →
          otherParts = order.parts ∧ otherPieces = pieces := by
  intro order
  have hne : order.parts ≠ [] := by simp [order]
  have hparts : ∀ p ∈ order.parts, p.IsWellFormed := by decide +kernel
  obtain ⟨-, hread, hwritten⟩ := parse_follows_grammar
  have hparse : parse order.sql = .ok order := hwritten order.parts hne hparts
  exact ⟨hne, hparts, hparse, by decide +kernel, (hread _ _ hparse).2⟩

end Identifier
end TableAccess
