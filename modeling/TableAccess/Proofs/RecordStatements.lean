import TableAccess.Proofs.SafeOperations
import TableAccess.Proofs.SharedCriteria

/-!
# Statements that write a record

An insertion lists the columns of a record and the placeholders of its values in the same order,
and an update puts them side by side. `Record.insertionText` is the text of an insertion. What is
generated stands last in both lists and takes no parameter; `Record.Generates` says when and what
that is.
-/

namespace TableAccess

section Except

variable {ε α β : Type}

lemma exists_error_iff {x : Except ε α} : (∃ e, x = .error e) ↔ ¬∃ a, x = .ok a := by
  cases x <;> simp

lemma exists_mapM_eq_ok_iff {f : α → Except ε β} {xs : List α} :
    (∃ ys, xs.mapM f = .ok ys) ↔ ∀ x ∈ xs, ∃ y, f x = .ok y := by
  constructor
  · rintro ⟨ys, h⟩
    have hpairs := mapM_eq_ok_iff.mp h
    clear h
    induction hpairs with
    | nil => simp
    | cons hy _ ih => exact List.forall_mem_cons.mpr ⟨⟨_, hy⟩, ih⟩
  · intro h
    induction xs with
    | nil => exact ⟨[], rfl⟩
    | cons x xs ih =>
      obtain ⟨⟨y, hy⟩, hrest⟩ := List.forall_mem_cons.mp h
      obtain ⟨ys, hys⟩ := ih hrest
      exact ⟨y :: ys, mapM_eq_ok_iff.mpr (.cons hy (mapM_eq_ok_iff.mp hys))⟩

end Except

namespace Template

lemma texts_identifiers (count : Nat) (names : List Identifier) :
    texts count (names.map identifier) = names.map Identifier.sql := by
  induction names generalizing count with
  | nil => rfl
  | cons name names ih =>
    have hname : (identifier name).sqlFrom count = name.sql := sqlFrom_text count name.sql
    rw [List.map_cons, texts, ih, hname, List.map_cons]

/-- So many placeholders that `count` others precede. -/
def placeholders (count n : Nat) : List String :=
  (List.range' (count + 1) n).map fun k => "$" ++ toString k

lemma texts_slots (count : Nat) (vs : List Value) :
    texts count (vs.map slot) = placeholders count vs.length := by
  induction vs generalizing count with
  | nil => rfl
  | cons v vs ih =>
    have hslot : (slot v).params.length = 1 := rfl
    rw [List.map_cons, texts, ih, hslot, sqlFrom_slot, placeholders, placeholders,
      List.length_cons, List.range'_succ, List.map_cons]

end Template

namespace Record

/-- The text of an insertion: the names of the columns, and behind them what goes into each. -/
def insertionText (table : Identifier) (names : List Identifier)
    (generated : Option Generated) : String :=
  let columns := names.map Identifier.sql ++ generated.toList.map fun g => g.1.sql
  let entries := Template.placeholders 0 names.length ++ generated.toList.map Prod.snd
  if columns = [] then "INSERT INTO " ++ table.sql ++ " DEFAULT VALUES"
  else "INSERT INTO " ++ table.sql ++ " (" ++ ", ".intercalate columns ++ ") VALUES (" ++
    ", ".intercalate entries ++ ")"

lemma columns_insertion (names : List Identifier) (generated : Option Generated) :
    (Template.joined ", " ((names ++ generated.toList.map Prod.fst).map .identifier)).IsFixed
      (", ".intercalate (names.map Identifier.sql ++ generated.toList.map fun g => g.1.sql)) := by
  constructor
  · simp [Template.params_joined, List.flatMap_map]
  · intro count
    rw [Template.sqlFrom_joined, Template.texts_identifiers, List.map_append, List.map_map]
    rfl

lemma entries_insertion (values : List Value) (generated : Option Generated) :
    let entries := Template.joined ", "
      (values.map Template.slot ++ generated.toList.map fun g => .text g.2)
    entries.params = values ∧ entries.sqlFrom 0 = ", ".intercalate
      (Template.placeholders 0 values.length ++ generated.toList.map Prod.snd) := by
  intro entries
  constructor
  · rw [Template.params_joined]
    cases generated <;> simp [List.flatMap_map]
  · rw [Template.sqlFrom_joined, Template.texts_append, Template.texts_slots]
    cases generated with
    | none => rfl
    | some g => simp [Template.texts]

lemma statement_insertion (table : Identifier) {names : List Identifier} {values : List Value}
    (hlength : names.length = values.length) {generated : Option Generated}
    (hne : names ≠ [] ∨ generated ≠ none) :
    (.text "INSERT INTO " ++ .identifier table ++ insertion names values generated :
      Template).statement = ⟨insertionText table names generated, values⟩ := by
  have hcolumns : names.map Identifier.sql ++ generated.toList.map (fun g => g.1.sql) ≠ [] := by
    cases generated with
    | none => simpa using hne
    | some g => simp
  obtain ⟨hnone, hnames⟩ := columns_insertion names generated
  obtain ⟨hvalues, hentries⟩ := entries_insertion values generated
  rw [← hlength] at hentries
  rw [insertionText, if_neg hcolumns, insertion]
  -- both lists stay closed while the texts around them are put together
  generalize Template.joined ", " ((names ++ generated.toList.map Prod.fst).map .identifier) =
    columns at hnone hnames
  generalize Template.joined ", "
    (values.map Template.slot ++ generated.toList.map fun g => .text g.2) =
    entries at hvalues hentries
  simp [Template.statement, Template.sql_eq_sqlFrom, Template.identifier, hnone, hnames, hvalues,
    hentries, String.append_assoc]

lemma insertionText_eq_default_iff (table : Identifier) (names : List Identifier)
    (generated : Option Generated) :
    insertionText table names generated = "INSERT INTO " ++ table.sql ++ " DEFAULT VALUES" ↔
      names = [] ∧ generated = none := by
  have hcolumns : names.map Identifier.sql ++ generated.toList.map (fun g => g.1.sql) = [] ↔
      names = [] ∧ generated = none := by
    cases generated <;> simp
  rw [insertionText, ← hcolumns]
  split_ifs with hempty
  · exact iff_of_true rfl hempty
  · refine iff_of_false ?_ hempty
    intro h
    have hlist := congrArg String.toList h
    simp at hlist

/-- What an insertion adds to a record: an identifier column whose text is not among its columns,
and the expression of the settings. -/
structure Generates (settings : Settings) (r : Record) (identifier : Option String)
    (generated : Option Generated) : Prop where
  isSome_iff : generated.isSome = true ↔ ∃ column ∈ identifier, column ∉ r.columns
  made : ∀ g ∈ generated, ∀ column ∈ identifier, Identifier.parse column = .ok g.1 ∧
    settings.identifierSource.expression = .ok g.2

variable {settings : Settings} {r : Record} {table : String} {identifier : Option String}

lemma generated_eq_ok_iff_generates {i : Identifier} {generated : Option Generated} :
    (r.generated settings i identifier).outcome = .ok generated ↔
      r.Generates settings identifier generated := by
  rw [generated_eq_ok_iff]
  constructor
  · intro h
    cases identifier with
    | none =>
      simp only at h
      rw [← h]
      exact ⟨by simp, by simp⟩
    | some column =>
      simp only at h
      split_ifs at h with hcontains
      · rw [contains_iff] at hcontains
        rw [← h]
        exact ⟨by simpa using hcontains, by simp⟩
      · rw [contains_iff] at hcontains
        obtain ⟨name, hname, e, he, rfl⟩ := h
        exact ⟨by simpa using hcontains, by simpa using ⟨hname, he⟩⟩
  · rintro ⟨hsome, hmade⟩
    cases identifier with
    | none =>
      have hnone : generated = none := by simpa using hsome
      exact hnone.symm
    | some column =>
      simp only
      split_ifs with hcontains
      · rw [contains_iff] at hcontains
        have hnone : generated = none := by simpa [hcontains] using hsome
        exact hnone.symm
      · rw [contains_iff] at hcontains
        obtain ⟨g, rfl⟩ : ∃ g, generated = some g := by
          simpa [hcontains, Option.isSome_iff_exists] using hsome
        obtain ⟨hname, he⟩ := hmade g rfl column rfl
        exact ⟨g.1, hname, g.2, he, rfl⟩

def insertionTemplate (r : Record) (table : Identifier) (names : List Identifier)
    (generated : Option Generated) : Template :=
  if r.isEmpty && generated.isNone then
    .text "INSERT INTO " ++ .identifier table ++ .text " DEFAULT VALUES"
  else .text "INSERT INTO " ++ .identifier table ++ insertion names r.values generated

lemma columns_eq_nil_iff : r.columns = [] ↔ r.isEmpty = true := by
  rw [isEmpty, List.isEmpty_iff, columns, Entries.keys, List.map_eq_nil_iff]

lemma length_of_mapM_columns {names : List Identifier}
    (h : r.columns.mapM Identifier.parse = .ok names) : names.length = r.values.length := by
  have hlength := length_of_mapM h
  simpa [columns, Entries.keys, values] using hlength

lemma statement_insertionTemplate (i : Identifier) {names : List Identifier}
    (h : r.columns.mapM Identifier.parse = .ok names) (generated : Option Generated) :
    (r.insertionTemplate i names generated).statement =
      ⟨insertionText i names generated, r.values⟩ := by
  have hlength := length_of_mapM_columns h
  by_cases hdefault : names = [] ∧ generated = none
  · obtain ⟨rfl, rfl⟩ := hdefault
    have hvalues : r.values = [] := List.length_eq_zero_iff.mp hlength.symm
    have hempty : r.isEmpty = true := by simpa [values, isEmpty] using hvalues
    rw [insertionTemplate, hempty, hvalues]
    simp [Template.statement, Template.sql_eq_sqlFrom, Template.identifier, insertionText]
  · have hfilled : (r.isEmpty && generated.isNone) = false := by
      rw [Bool.eq_false_iff, ne_eq, Bool.and_eq_true, Option.isNone_iff_eq_none]
      rintro ⟨hempty, hnone⟩
      rw [← columns_eq_nil_iff] at hempty
      rw [hempty, List.mapM_nil, pure_eq_ok_iff] at h
      exact hdefault ⟨h.symm, hnone⟩
    rw [insertionTemplate, hfilled]
    refine statement_insertion i hlength ?_
    tauto

/-- The checks of an insertion, and the template that it is when they succeed. -/
theorem insertTemplate_iff {t : Template} :
    (r.insertTemplate settings table identifier).outcome = .ok t ↔
      ∃ i names generated, Identifier.parse table = .ok i ∧
        r.columns.mapM Identifier.parse = .ok names ∧ r.Generates settings identifier generated ∧
          r.insertionTemplate i names generated = t := by
  rw [insertTemplate_eq_ok_iff]
  constructor
  · rintro ⟨i, hi, generated, hgenerated, h⟩
    rw [generated_eq_ok_iff_generates] at hgenerated
    split_ifs at h with hdefault
    · have hempty : r.columns = [] := columns_eq_nil_iff.mpr (by simp_all)
      refine ⟨i, [], generated, hi, ?_, hgenerated, ?_⟩
      · rw [hempty]
        rfl
      · rw [insertionTemplate, if_pos hdefault, h]
    · obtain ⟨names, hnames, h⟩ := h
      refine ⟨i, names, generated, hi, hnames, hgenerated, ?_⟩
      rw [insertionTemplate, if_neg hdefault, h]
  · rintro ⟨i, names, generated, hi, hnames, hgenerated, h⟩
    refine ⟨i, hi, generated, generated_eq_ok_iff_generates.mpr hgenerated, ?_⟩
    rw [insertionTemplate] at h
    split_ifs at h ⊢
    · exact h
    · exact ⟨names, hnames, h⟩

theorem insertStatement_iff {st : Statement} :
    (r.insertStatement settings table identifier).outcome = .ok st ↔
      ∃ i names generated, Identifier.parse table = .ok i ∧
        r.columns.mapM Identifier.parse = .ok names ∧ r.Generates settings identifier generated ∧
          st = ⟨insertionText i names generated, r.values⟩ := by
  rw [insertStatement_eq_ok_iff]
  constructor
  · rintro ⟨t, ht, rfl⟩
    obtain ⟨i, names, generated, hi, hnames, hgenerated, rfl⟩ := insertTemplate_iff.mp ht
    exact ⟨i, names, generated, hi, hnames, hgenerated, statement_insertionTemplate i hnames _⟩
  · rintro ⟨i, names, generated, hi, hnames, hgenerated, rfl⟩
    refine ⟨_, insertTemplate_iff.mpr ⟨i, names, generated, hi, hnames, hgenerated, rfl⟩, ?_⟩
    exact statement_insertionTemplate i hnames generated

theorem insertReturning_iff {column : String} {st : Statement} :
    (r.insertReturning settings table column).outcome = .ok st ↔
      ∃ i insert, Identifier.parse column = .ok i ∧
        (r.insertStatement settings table (some column)).outcome = .ok insert ∧
          st = ⟨insert.sql ++ " RETURNING " ++ i.sql, insert.params⟩ := by
  have hstatement (t : Template) (i : Identifier) :
      (t ++ .text " RETURNING " ++ .identifier i).statement =
        ⟨t.statement.sql ++ " RETURNING " ++ i.sql, t.statement.params⟩ := by
    simp [Template.statement, Template.sql_eq_sqlFrom, Template.identifier, String.append_assoc]
  rw [insertReturning_eq_ok_iff]
  constructor
  · rintro ⟨i, hi, t, ht, rfl⟩
    exact ⟨i, t.statement, hi, insertStatement_eq_ok_iff.mpr ⟨t, ht, rfl⟩, hstatement t i⟩
  · rintro ⟨i, insert, hi, hinsert, rfl⟩
    obtain ⟨t, ht, rfl⟩ := insertStatement_eq_ok_iff.mp hinsert
    exact ⟨i, hi, t, ht, hstatement t i⟩

end Record

/-- A name that is no identifier. -/
def Identifier.IsRefused (s : String) : Prop :=
  ∃ cause, Identifier.parse s = .error cause

namespace Record

variable {settings : Settings} {r : Record} {table : String} {identifier : Option String}

lemma exists_expression_iff (source : IdentifierSource) :
    (∃ e, source.expression = .ok e) ↔
      ¬∃ text, source = .custom text ∧ ∃ cause, Fragment.parse text = .error cause := by
  cases source with
  | custom text =>
    cases hparse : Fragment.parse text <;>
      simp [IdentifierSource.expression, hparse, Except.map]
  | _ => simp [IdentifierSource.expression]

lemma exists_generates_iff :
    (∃ generated, r.Generates settings identifier generated) ↔
      ∀ column ∈ identifier, column ∉ r.columns → (∃ i, Identifier.parse column = .ok i) ∧
        ∃ e, settings.identifierSource.expression = .ok e := by
  constructor
  · rintro ⟨generated, hsome, hmade⟩ column hcolumn hmissing
    obtain ⟨g, hg⟩ := Option.isSome_iff_exists.mp (hsome.mpr ⟨column, hcolumn, hmissing⟩)
    obtain ⟨hname, he⟩ := hmade g hg column hcolumn
    exact ⟨⟨_, hname⟩, _, he⟩
  · intro h
    by_cases hlacks : ∃ column ∈ identifier, column ∉ r.columns
    · obtain ⟨column, hcolumn, hmissing⟩ := hlacks
      obtain ⟨⟨i, hi⟩, e, he⟩ := h column hcolumn hmissing
      refine ⟨some (i, e), iff_of_true rfl ⟨column, hcolumn, hmissing⟩, ?_⟩
      rintro g hg other hother
      rw [Option.mem_unique hother hcolumn, ← Option.some.inj hg]
      exact ⟨hi, he⟩
    · exact ⟨none, iff_of_false (by simp) hlacks, by simp⟩

/-- An insertion fails if and only if a name that stands in it, or the expression of the caller,
is refused. -/
theorem insertStatement_fails_iff :
    (∃ e, (r.insertStatement settings table identifier).outcome = .error e) ↔
      Identifier.IsRefused table ∨ (∃ column ∈ r.columns, Identifier.IsRefused column) ∨
        ∃ column ∈ identifier, column ∉ r.columns ∧ (Identifier.IsRefused column ∨
          ∃ text, settings.identifierSource = .custom text ∧
            ∃ cause, Fragment.parse text = .error cause) := by
  have hsucceeds : (∃ st, (r.insertStatement settings table identifier).outcome = .ok st) ↔
      (∃ i, Identifier.parse table = .ok i) ∧
        (∃ names, r.columns.mapM Identifier.parse = .ok names) ∧
          ∃ generated, r.Generates settings identifier generated := by
    simp only [insertStatement_iff]
    constructor
    · rintro ⟨st, i, names, generated, hi, hnames, hgenerated, -⟩
      exact ⟨⟨i, hi⟩, ⟨names, hnames⟩, generated, hgenerated⟩
    · rintro ⟨⟨i, hi⟩, ⟨names, hnames⟩, generated, hgenerated⟩
      exact ⟨_, i, names, generated, hi, hnames, hgenerated, rfl⟩
  rw [exists_error_iff, hsucceeds, exists_mapM_eq_ok_iff, exists_generates_iff]
  simp only [Identifier.IsRefused, exists_error_iff, exists_expression_iff]
  grind

end Record

/-- The terms of restrictions hold nothing that could break out of a statement. -/
lemma Restriction.joined_harmless {letterCase : LetterCase} {rs : List Restriction}
    {ts : List Template} (h : rs.mapM (term letterCase) = .ok ts) :
    (Template.joined " AND " ts).Harmless 0 0 := by
  apply Template.Harmless.joined (by decide)
  intro t ht
  obtain ⟨r, -, hr⟩ := exists_of_forall₂_mem (mapM_eq_ok_iff.mp h) ht
  cases r with
  | predicate p => exact p.term_harmless hr
  | member negated m => exact m.term_harmless hr
  | textMatch m => exact TextMatch.term_harmless hr

namespace Record

variable {settings : Settings} {r : Record} {table : String}

lemma exists_names_of_assignments {ts : List Template}
    (h : r.entries.mapM assignment = .ok ts) :
    ∃ names, r.columns.mapM Identifier.parse = .ok names := by
  have hassigned := exists_mapM_eq_ok_iff.mp ⟨ts, h⟩
  apply exists_mapM_eq_ok_iff.mpr
  intro column hcolumn
  obtain ⟨entry, hentry, rfl⟩ := List.mem_map.mp hcolumn
  obtain ⟨t, ht⟩ := hassigned entry hentry
  obtain ⟨name, hname, -⟩ := bind_eq_ok_iff.mp ht
  exact ⟨name, hname⟩

/-- An update sets its columns to the first placeholders, and those of its condition follow. -/
theorem updateStatement_of_ok {c : Criteria} {st : Statement}
    (h : (r.updateStatement settings table c).outcome = .ok st) :
    ∃ i names, Identifier.parse table = .ok i ∧ r.columns.mapM Identifier.parse = .ok names ∧
      0 < names.length ∧ ∃ chain rest ls,
        st = ⟨"UPDATE " ++ i.sql ++ " SET " ++ assignedText names ++ " WHERE " ++ chain,
          r.values ++ rest⟩ ∧
        Lexeme.scan chain.toList = some ls ∧
        ls.filterMap Lexeme.digits? = Lexeme.numbered names.length rest.length := by
  rw [updateStatement_eq, Traced.outcome_checked_eq_ok_iff] at h
  obtain ⟨i, hi, h⟩ := bind_eq_ok_iff.mp h
  split_ifs at h with hempty hc
  obtain ⟨assignments, hassignments, h⟩ := bind_eq_ok_iff.mp h
  obtain ⟨condition, hcondition, h⟩ := bind_eq_ok_iff.mp h
  obtain ⟨ts, hts, hchain⟩ := bind_eq_ok_iff.mp hcondition
  rw [pure_eq_ok_iff] at h hchain
  have hne : ts ≠ [] := c.terms_ne_nil (by simpa using hc) hts
  obtain ⟨names, hnames⟩ := exists_names_of_assignments hassignments
  obtain ⟨hset, hvalues⟩ := joined_assignments hnames hassignments
  have hlength := length_of_mapM_columns hnames
  obtain ⟨ls, hls, -⟩ := Restriction.joined_harmless hts names.length
  have hwhere (s : String) : " " ++ ("WHERE " ++ s) = " WHERE " ++ s := String.append_assoc.symm
  refine ⟨i, names, hi, hnames, ?_, (Template.joined " AND " ts).sqlFrom names.length,
    (Template.joined " AND " ts).params, ls, ?_, hls.scanned, hls.tidy.placeholders⟩
  · rw [hlength]
    apply List.length_pos_iff.mpr
    simpa [values, isEmpty] using hempty
  · rw [← h, ← hchain, Template.conjoined_eq hne, hlength]
    simp [Template.statement, Template.sql_eq_sqlFrom, Template.identifier, hset, hvalues, hwhere,
      String.append_assoc]

/-- An insertion has the columns of its record and then a generated one, which it has if and only
if an identifier is given whose text is not among them. The values are the parameters in the order
of their columns, and an expression takes the place of the one that is missing. Returning the
identifier adds to the text only. An update sets the same columns to the same parameters and
numbers its condition behind them. -/
theorem statements_pair (settings : Settings) (table : String) (r : Record) :
    (∀ identifier st, (r.insertStatement settings table identifier).outcome = .ok st →
      ∃ i names generated, Identifier.parse table = .ok i ∧
        r.columns.mapM Identifier.parse = .ok names ∧ r.Generates settings identifier generated ∧
        st = ⟨insertionText i names generated, r.values⟩ ∧
        (st.sql = "INSERT INTO " ++ i.sql ++ " DEFAULT VALUES" ↔
          r.isEmpty = true ∧ identifier = none)) ∧
    (∀ identifier, (∃ e, (r.insertStatement settings table identifier).outcome = .error e) ↔
      Identifier.IsRefused table ∨ (∃ column ∈ r.columns, Identifier.IsRefused column) ∨
        ∃ column ∈ identifier, column ∉ r.columns ∧ (Identifier.IsRefused column ∨
          ∃ text, settings.identifierSource = .custom text ∧
            ∃ cause, Fragment.parse text = .error cause)) ∧
    (∀ identifier st, (r.insertReturning settings table identifier).outcome = .ok st ↔
      ∃ i insert, Identifier.parse identifier = .ok i ∧
        (r.insertStatement settings table (some identifier)).outcome = .ok insert ∧
          st = ⟨insert.sql ++ " RETURNING " ++ i.sql, insert.params⟩) ∧
    ∀ c st, (r.updateStatement settings table c).outcome = .ok st →
      ∃ i names, Identifier.parse table = .ok i ∧ r.columns.mapM Identifier.parse = .ok names ∧
        0 < names.length ∧ ∃ chain rest ls,
          st = ⟨"UPDATE " ++ i.sql ++ " SET " ++ assignedText names ++ " WHERE " ++ chain,
            r.values ++ rest⟩ ∧
          Lexeme.scan chain.toList = some ls ∧
          ls.filterMap Lexeme.digits? = Lexeme.numbered names.length rest.length := by
  refine ⟨?_, fun _ => insertStatement_fails_iff, fun _ _ => insertReturning_iff,
    fun _ _ => updateStatement_of_ok⟩
  intro identifier st h
  obtain ⟨i, names, generated, hi, hnames, hgenerated, rfl⟩ := insertStatement_iff.mp h
  refine ⟨i, names, generated, hi, hnames, hgenerated, rfl, ?_⟩
  rw [insertionText_eq_default_iff]
  have hnone : generated = none ↔ ¬∃ column ∈ identifier, column ∉ r.columns := by
    rw [← hgenerated.isSome_iff]
    cases generated <;> simp
  have hempty : names = [] ↔ r.columns = [] := by
    have hlength := (mapM_eq_ok_iff.mp hnames).length_eq
    rw [← List.length_eq_zero_iff, ← hlength, List.length_eq_zero_iff]
  rw [hnone, hempty, ← columns_eq_nil_iff]
  constructor
  · rintro ⟨hcolumns, hlacks⟩
    refine ⟨hcolumns, ?_⟩
    cases identifier with
    | none => rfl
    | some column => exact absurd ⟨column, rfl, by simp [hcolumns]⟩ hlacks
  · rintro ⟨hcolumns, rfl⟩
    exact ⟨hcolumns, by simp⟩

/-- A person without a known age. -/
def ada : Record :=
  ⟨[("name", .text "Ada"), ("age", .null)]⟩

theorem statements_pair_ada :
    (∃ st, (ada.insertStatement { identifierSource := .compact } "users" (some "id")).outcome =
        .ok st ∧
      st.sql = "INSERT INTO users (name, age, id) VALUES " ++
        "($1, $2, replace(gen_random_uuid()::text, '-', ''))" ∧
      ∃ i names generated, st = ⟨insertionText i names generated, ada.values⟩) ∧
    ∃ st, (ada.updateStatement {} "users" Criteria.adults).outcome = .ok st ∧
      st.sql = "UPDATE users SET name = $1, age = $2 WHERE age >= $3 AND city IN ($4, $5)" ∧
      ∃ names : List Identifier, 0 < names.length ∧ ∃ rest, st.params = ada.values ++ rest := by
  constructor
  · refine Operation.exists_statement_of_sql (by decide +kernel) ?_
    intro st hst
    obtain ⟨hinsert, -⟩ := statements_pair { identifierSource := .compact } "users" ada
    obtain ⟨i, names, generated, -, -, -, heq, -⟩ := hinsert _ st hst
    exact ⟨i, names, generated, heq⟩
  · refine Operation.exists_statement_of_sql (by decide +kernel) ?_
    intro st hst
    obtain ⟨-, -, -, hupdate⟩ := statements_pair {} "users" ada
    obtain ⟨i, names, -, -, hpos, chain, rest, -, rfl, -⟩ := hupdate _ st hst
    exact ⟨names, hpos, rest, rfl⟩

end Record
end TableAccess
