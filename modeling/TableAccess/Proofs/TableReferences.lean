import TableAccess.Proofs.Blanks
import TableAccess.Proofs.IdentifierGrammar

/-!
# Tables and their aliases

A table reference is cut at its blanks before its identifiers are read. The two agree: what the
reader of identifiers accepts has blanks between quotes only, so it is a single field
(`Identifier.isField_sql`). Hence `TableReference.parse` finds a table and its alias whatever the
blanks around them, and reads what it writes.
-/

namespace TableAccess

namespace Identifier

/-- Blanks at the place separate nothing. -/
def Place.isQuoted : Place → Bool
  | .quoted _ => true
  | _ => false

lemma toNat_of_continuesName {c : Char} (h : continuesName c = true) :
    33 ≤ c.toNat ∧ c.toNat ≤ 126 := by
  have hval : c.toNat = c.val.toNat := rfl
  rcases continuesName_iff.mp h with rfl | rfl | (hupper | hlower) | hdigit
  · decide
  · decide
  · simp [Char.le_def, UInt32.le_iff_toNat_le] at hupper
    omega
  · simp [Char.le_def, UInt32.le_iff_toNat_le] at hlower
    omega
  · simp [Char.le_def, UInt32.le_iff_toNat_le] at hdigit
    omega

lemma isBlank_of_continuesName {c : Char} (h : continuesName c = true) :
    Text.isBlank c = false := by
  obtain ⟨hlow, hhigh⟩ := toNat_of_continuesName h
  exact Text.isBlank_of_toNat hlow hhigh

/-- Each character leaves quotes, opens them or goes on, and is no blank outside of them. -/
lemma read_cons {text : String} {parts found : List Part} {place : Place} {c : Char}
    {cs : List Char} (h : read text parts place (c :: cs) = .ok found) :
    (place.isQuoted = false → Text.isBlank c = false) ∧
      ∃ more next, read text more next cs = .ok found ∧
        next.isQuoted = (place.isQuoted != (c == '"')) := by
  cases place with
  | before =>
    simp only [read] at h
    split_ifs at h with hquote hdot hbegins
    · exact ⟨fun _ => by rw [hquote]; decide, _, _, h, by simp [Place.isQuoted, hquote]⟩
    · have hcontinues := continuesName_of_beginsName hbegins
      exact ⟨fun _ => isBlank_of_continuesName hcontinues, _, _, h,
        by simp [Place.isQuoted, hquote]⟩
  | plain name =>
    simp only [read] at h
    split_ifs at h with hdot hcontinues
    · exact ⟨fun _ => by rw [hdot]; decide, _, _, h, by simp [Place.isQuoted, hdot]⟩
    · have hquote : c ≠ '"' := by
        rintro rfl
        exact absurd hcontinues (by decide)
      exact ⟨fun _ => isBlank_of_continuesName hcontinues, _, _, h,
        by simp [Place.isQuoted, hquote]⟩
  | quoted name =>
    simp only [read] at h
    split_ifs at h with hquote
    · exact ⟨by simp [Place.isQuoted], _, _, h, by simp [Place.isQuoted, hquote]⟩
    · exact ⟨by simp [Place.isQuoted], _, _, h, by simp [Place.isQuoted, hquote]⟩
  | closing name =>
    simp only [read] at h
    split_ifs at h with hquote hname hdot
    · exact ⟨fun _ => by rw [hquote]; decide, _, _, h, by simp [Place.isQuoted, hquote]⟩
    · exact ⟨fun _ => by rw [hdot]; decide, _, _, h, by simp [Place.isQuoted, hdot]⟩

/-- The reader ends outside of quotes, and what it accepts goes into one field. -/
lemma fieldsFrom_of_read {text : String} {parts found : List Part} {place : Place}
    {cs : List Char} (h : read text parts place cs = .ok found) (word rest : List Char) :
    TableReference.fieldsFrom place.isQuoted word (cs ++ rest) =
      TableReference.fieldsFrom false (word ++ cs) rest := by
  induction cs generalizing parts place word with
  | nil =>
    have hquoted : place.isQuoted = false := by
      cases place with
      | quoted name => simp [read] at h
      | before | plain name | closing name => rfl
    rw [hquoted, List.append_nil, List.nil_append]
  | cons c cs ih =>
    obtain ⟨hblank, more, next, hnext, hquoted⟩ := read_cons h
    have hwithin : (Text.isBlank c && !place.isQuoted) = false := by
      cases hplace : place.isQuoted with
      | true => simp
      | false => simp [hblank hplace]
    rw [List.cons_append, TableReference.fieldsFrom, if_neg (by simp [hwithin]), ← hquoted,
      ih hnext, List.append_assoc, List.singleton_append]

end Identifier

namespace TableReference

/-! ## Fields -/

/-- A text that goes into one field as a whole, whatever stands around it. -/
structure IsField (cs : List Char) : Prop where
  ne_nil : cs ≠ []
  whole : ∀ word rest, fieldsFrom false word (cs ++ rest) = fieldsFrom false (word ++ cs) rest

section Fields

variable {cs gap : List Char}

lemma fields_gap_append (hgap : Text.IsGap gap) (rest : List Char) :
    fields (gap ++ rest) = fields rest := by
  induction gap with
  | nil => rfl
  | cons c gap ih =>
    obtain ⟨hc, hgap⟩ := List.forall_mem_cons.mp hgap
    rw [List.cons_append, fields, fieldsFrom, if_pos (by simp [hc]), Text.flush]
    exact ih hgap

/-- A blank ends a field. -/
lemma IsField.fields_append (h : IsField cs) (hgap : Text.IsGap gap) (hne : gap ≠ [])
    (rest : List Char) : fields (cs ++ (gap ++ rest)) = cs :: fields rest := by
  obtain ⟨c, gap, rfl⟩ := List.exists_cons_of_ne_nil hne
  obtain ⟨hc, hgap⟩ := List.forall_mem_cons.mp hgap
  rw [fields, h.whole, List.nil_append, List.cons_append, fieldsFrom, if_pos (by simp [hc]),
    Text.flush, if_neg (by simpa using h.ne_nil), ← fields, fields_gap_append hgap]

/-- The end of the text ends a field as well. -/
lemma IsField.fields_last (h : IsField cs) (hgap : Text.IsGap gap) : fields (cs ++ gap) = [cs] := by
  by_cases hne : gap = []
  · rw [hne, fields, h.whole, List.nil_append, fieldsFrom, Text.flush,
      if_neg (by simpa using h.ne_nil)]
  · have hnone := h.fields_append hgap hne []
    rwa [List.append_nil] at hnone

/-- A word without blanks and quotes. -/
lemma isField_of_forall (hne : cs ≠ []) (hcs : ∀ c ∈ cs, Text.isBlank c = false ∧ c ≠ '"') :
    IsField cs := by
  refine ⟨hne, ?_⟩
  clear hne
  induction cs with
  | nil => simp
  | cons c cs ih =>
    obtain ⟨⟨hblank, hquote⟩, hcs⟩ := List.forall_mem_cons.mp hcs
    intro word rest
    have hstay : (false != (c == '"')) = false := by simp [hquote]
    rw [List.cons_append, fieldsFrom, if_neg (by simp [hblank]), hstay, ih hcs,
      List.append_assoc, List.singleton_append]

end Fields

end TableReference

namespace Identifier

theorem isField_of_parse {s : String} {i : Identifier} (h : parse s = .ok i) :
    TableReference.IsField s.toList := by
  rw [parse] at h
  split_ifs at h with hempty hnul
  obtain ⟨found, hfound, -⟩ := map_eq_ok_iff.mp h
  exact ⟨by simpa using hempty, fieldsFrom_of_read hfound⟩

/-- An identifier is a table without an alias. -/
theorem parse_tableReference {s : String} {i : Identifier} (h : parse s = .ok i) :
    TableReference.parse s = .ok ⟨i, none⟩ := by
  have hnone : Text.IsGap [] := by simp [Text.IsGap]
  have hfields := (isField_of_parse h).fields_last hnone
  rw [List.append_nil] at hfields
  rw [TableReference.parse, hfields]
  simp only [TableReference.ofFields?, String.ofList_toList, h]
  rfl

end Identifier

namespace TableReference

/-! ## Reading and writing -/

/-- The word that may stand between a table and its alias, in every case. -/
def aliasWords : List String :=
  ["AS", "As", "aS", "as"]

lemma isField_aliasWord {word : String} (h : word ∈ aliasWords) :
    IsField word.toList ∧ Text.lower word.toList = ['a', 's'] := by
  have hall : ∀ w ∈ aliasWords, w.toList ≠ [] ∧
      w.toList.all (fun c => !Text.isBlank c && c != '"') ∧
      Text.lower w.toList = ['a', 's'] := by decide +kernel
  obtain ⟨hne, hcs, hlower⟩ := hall word h
  exact ⟨isField_of_forall hne (by simpa using hcs), hlower⟩

section Parse

variable {i a : Identifier} {w₀ w₁ w₂ w₃ : String}

lemma parse_of_table {s : String} (hi : Identifier.parse i.sql = .ok i)
    (hfields : ofFields? (fields s.toList) = some (i.sql.toList, none)) :
    parse s = .ok ⟨i, none⟩ := by
  rw [parse, hfields]
  simp only [String.ofList_toList, hi]
  rfl

lemma parse_of_alias {s : String} (hi : Identifier.parse i.sql = .ok i)
    (ha : Identifier.parse a.sql = .ok a) (hone : a.parts.length = 1)
    (hfields : ofFields? (fields s.toList) = some (i.sql.toList, some a.sql.toList)) :
    parse s = .ok ⟨i, some a⟩ := by
  have halias : parseAlias a.sql = .ok a := by
    rw [parseAlias, ha, ok_bind, if_pos hone]
    rfl
  rw [parse, hfields]
  simp only [String.ofList_toList, halias, hi, ok_bind]
  rfl

theorem parse_table (hi : Identifier.parse i.sql = .ok i) (h₀ : Text.IsGap w₀.toList)
    (h₃ : Text.IsGap w₃.toList) : parse (w₀ ++ i.sql ++ w₃) = .ok ⟨i, none⟩ := by
  refine parse_of_table hi ?_
  have hfield := Identifier.isField_of_parse hi
  rw [String.toList_append, String.toList_append, List.append_assoc, fields_gap_append h₀,
    hfield.fields_last h₃]
  rfl

theorem parse_alias (hi : Identifier.parse i.sql = .ok i) (ha : Identifier.parse a.sql = .ok a)
    (hone : a.parts.length = 1) (h₀ : Text.IsGap w₀.toList) (h₁ : Text.IsGap w₁.toList)
    (hne₁ : w₁ ≠ "") (h₃ : Text.IsGap w₃.toList) :
    parse (w₀ ++ i.sql ++ w₁ ++ a.sql ++ w₃) = .ok ⟨i, some a⟩ := by
  refine parse_of_alias hi ha hone ?_
  have htable := Identifier.isField_of_parse hi
  have hname := Identifier.isField_of_parse ha
  simp only [String.toList_append, List.append_assoc]
  rw [fields_gap_append h₀, htable.fields_append h₁ (by simpa using hne₁), hname.fields_last h₃]
  rfl

theorem parse_aliasWord (hi : Identifier.parse i.sql = .ok i)
    (ha : Identifier.parse a.sql = .ok a) (hone : a.parts.length = 1)
    {word : String} (hword : word ∈ aliasWords) (h₀ : Text.IsGap w₀.toList)
    (h₁ : Text.IsGap w₁.toList) (hne₁ : w₁ ≠ "") (h₂ : Text.IsGap w₂.toList) (hne₂ : w₂ ≠ "")
    (h₃ : Text.IsGap w₃.toList) :
    parse (w₀ ++ i.sql ++ w₁ ++ word ++ w₂ ++ a.sql ++ w₃) = .ok ⟨i, some a⟩ := by
  refine parse_of_alias hi ha hone ?_
  have htable := Identifier.isField_of_parse hi
  have hname := Identifier.isField_of_parse ha
  obtain ⟨hbetween, hlower⟩ := isField_aliasWord hword
  simp only [String.toList_append, List.append_assoc]
  rw [fields_gap_append h₀, htable.fields_append h₁ (by simpa using hne₁),
    hbetween.fields_append h₂ (by simpa using hne₂), hname.fields_last h₃, ofFields?, if_pos hlower]

end Parse

/-- Both names of a reference are identifiers, and the alias has a single part. -/
theorem identifiers_of_parse {s : String} {t : TableReference} (h : parse s = .ok t) :
    Identifier.parse t.table.sql = .ok t.table ∧
      ∀ a ∈ t.aliasName, Identifier.parse a.sql = .ok a ∧ a.parts.length = 1 := by
  rw [parse] at h
  split at h
  · simp at h
  · obtain ⟨table, htable, h⟩ := bind_eq_ok_iff.mp h
    rw [pure_eq_ok_iff] at h
    subst h
    exact ⟨Identifier.parse_sql htable, by simp⟩
  · obtain ⟨name, hname, h⟩ := bind_eq_ok_iff.mp h
    obtain ⟨table, htable, h⟩ := bind_eq_ok_iff.mp h
    rw [pure_eq_ok_iff] at h
    subst h
    refine ⟨Identifier.parse_sql htable, ?_⟩
    intro a ha
    rw [Option.mem_def, Option.some.injEq] at ha
    subst ha
    obtain ⟨i, hi, hname⟩ := bind_eq_ok_iff.mp hname
    split_ifs at hname with hone
    rw [pure_eq_ok_iff] at hname
    subst hname
    exact ⟨Identifier.parse_sql hi, hone⟩

/-- What a reference is written as: the table, and behind one blank its alias. -/
theorem sql_eq (t : TableReference) :
    t.aliasName = none ∧ t.sql = t.table.sql ∨
      ∃ a, t.aliasName = some a ∧ t.sql = t.table.sql ++ " " ++ a.sql := by
  obtain ⟨table, aliasName⟩ := t
  cases aliasName with
  | none => exact .inl ⟨rfl, rfl⟩
  | some a => exact .inr ⟨a, rfl, rfl⟩

theorem parse_sql {s : String} {t : TableReference} (h : parse s = .ok t) :
    parse t.sql = .ok t := by
  obtain ⟨htable, halias⟩ := identifiers_of_parse h
  obtain ⟨table, aliasName⟩ := t
  have hnone : Text.IsGap "".toList := by simp [Text.IsGap]
  cases aliasName with
  | none =>
    have hone := parse_table htable hnone hnone
    rwa [String.empty_append, String.append_empty] at hone
  | some a =>
    obtain ⟨ha, hone⟩ := halias a rfl
    have hblank : Text.IsGap " ".toList := by simp [Text.IsGap, Text.isBlank]
    have htwo := parse_alias htable ha hone hnone hblank (by decide) hnone
    rwa [String.empty_append, String.append_empty] at htwo

/-- A table is found whatever blanks stand around it, with an alias behind it or behind `AS`. A
reference is written in one way, which is read back, and an identifier is a table by itself. -/
theorem parse_normalizes :
    (∀ (i a : Identifier) (w₀ w₁ w₂ w₃ word : String),
      (∃ s, Identifier.parse s = .ok i) → (∃ s, Identifier.parse s = .ok a) →
      a.parts.length = 1 → (∀ w ∈ [w₀, w₁, w₂, w₃], Text.IsGap w.toList) → w₁ ≠ "" → w₂ ≠ "" →
      word ∈ aliasWords →
      parse (w₀ ++ i.sql ++ w₃) = .ok ⟨i, none⟩ ∧
      parse (w₀ ++ i.sql ++ w₁ ++ a.sql ++ w₃) = .ok ⟨i, some a⟩ ∧
      parse (w₀ ++ i.sql ++ w₁ ++ word ++ w₂ ++ a.sql ++ w₃) = .ok ⟨i, some a⟩) ∧
    (∀ s t, parse s = .ok t →
      (t.aliasName = none ∧ t.sql = t.table.sql ∨
        ∃ a, t.aliasName = some a ∧ t.sql = t.table.sql ++ " " ++ a.sql) ∧
      parse t.sql = .ok t) ∧
    ∀ s i, Identifier.parse s = .ok i → parse s = .ok ⟨i, none⟩ := by
  refine ⟨?_, ?_, ?_⟩
  · rintro i a w₀ w₁ w₂ w₃ word ⟨s, hi⟩ ⟨r, ha⟩ hone hgaps hne₁ hne₂ hword
    have hi := Identifier.parse_sql hi
    have ha := Identifier.parse_sql ha
    simp only [List.forall_mem_cons] at hgaps
    obtain ⟨h₀, h₁, h₂, h₃, -⟩ := hgaps
    exact ⟨parse_table hi h₀ h₃, parse_alias hi ha hone h₀ h₁ hne₁ h₃,
      parse_aliasWord hi ha hone hword h₀ h₁ hne₁ h₂ hne₂ h₃⟩
  · intro s t h
    exact ⟨t.sql_eq, parse_sql h⟩
  · intro s i h
    exact Identifier.parse_tableReference h

/-- Neither the blanks between quotes nor a quote in a name cut a reference. -/
theorem parse_normalizes_orderLines :
    let lines : Identifier := ⟨[.plain "public", .quoted "Order Lines"]⟩
    let name : Identifier := ⟨[.quoted "o \"l\""]⟩
    (∃ s, Identifier.parse s = .ok lines) ∧ (∃ s, Identifier.parse s = .ok name) ∧
      name.parts.length = 1 ∧ (∀ w ∈ ["\t ", "\n", "\u3000 ", " "], Text.IsGap w.toList) ∧
      "aS" ∈ aliasWords ∧
      parse "\t public.\"Order Lines\"\naS\u3000 \"o \"\"l\"\"\" " = .ok ⟨lines, some name⟩ ∧
      parse "public.\"Order Lines\" \"o \"\"l\"\"\"" = .ok ⟨lines, some name⟩ ∧
      parse "public.\"Order Lines\"" = .ok ⟨lines, none⟩ := by
  intro lines name
  have hlines : Identifier.parse "public.\"Order Lines\"" = .ok lines := by decide +kernel
  have hname : Identifier.parse "\"o \"\"l\"\"\"" = .ok name := by decide +kernel
  have hgaps : ∀ w ∈ ["\t ", "\n", "\u3000 ", " "], Text.IsGap w.toList := by
    have hall : ∀ w ∈ ["\t ", "\n", "\u3000 ", " "], w.toList.all Text.isBlank := by decide +kernel
    intro w hw
    exact List.all_eq_true.mp (hall w hw)
  obtain ⟨hread, hwritten, halone⟩ := parse_normalizes
  obtain ⟨-, -, hword⟩ := hread lines name "\t " "\n" "\u3000 " " " "aS" ⟨_, hlines⟩ ⟨_, hname⟩ rfl
    hgaps (by decide) (by decide) (by decide)
  exact ⟨⟨_, hlines⟩, ⟨_, hname⟩, rfl, hgaps, by decide, hword, (hwritten _ _ hword).2,
    halone _ _ hlines⟩

end TableReference
end TableAccess
