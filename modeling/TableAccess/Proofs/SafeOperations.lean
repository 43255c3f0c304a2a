import TableAccess.Proofs.Operation
import TableAccess.Proofs.SafeStatements

/-!
# Every operation is lexically safe

Whatever text a caller hands in, the statement of an operation that succeeds scans as
`Lexeme.Clean`, with as many placeholders as it has parameters. Strings stand in it only where an
insertion holds the compact identifier expression, which is the library's own.
-/

namespace TableAccess

namespace Operation

/-- An operation that may hold an identifier expression. -/
def isInsertion : Operation → Bool
  | insert .. | insertReturning .. => true
  | _ => false

/-- No lexeme is a string, or all strings belong to the compact expression of an insertion. -/
def StringsAllowed (settings : Settings) (r : Operation) (ls : List Lexeme) : Prop :=
  (∀ l ∈ ls, l.isLiteral = false) ∨
    r.isInsertion = true ∧ settings.identifierSource = .compact ∧
      ∃ front expression rest text, ls = front ++ expression ++ rest ∧
        IdentifierSource.compact.expression = .ok text ∧
        Lexeme.scan text.toList = some expression ∧ ∀ l ∈ front ++ rest, l.isLiteral = false

end Operation

namespace IdentifierSource

/-- The lexemes of the compact expression. -/
def compactLexemes : List Lexeme :=
  [.word "replace".toList, .mark '(', .word "gen_random_uuid".toList, .mark '(', .mark ')',
    .mark ':', .mark ':', .word "text".toList, .mark ',', .mark ' ', .literal ['-'], .mark ',',
    .mark ' ', .literal [], .mark ')']

lemma reads_compact (count : Nat) :
    Lexeme.Reads count 0 1 1 "replace(gen_random_uuid()::text, '-', '')".toList compactLexemes := by
  have hmarks : Lexeme.forbiddenMarks.all (fun c => !compactLexemes.contains (.mark c)) = true := by
    decide
  simp only [List.all_eq_true, Bool.not_eq_true', List.contains_eq_mem,
    decide_eq_false_iff_not] at hmarks
  exact ⟨by decide, hmarks, by decide, by decide, rfl⟩

/-- An identifier expression can stand between parentheses. -/
theorem reads_expression {source : IdentifierSource} {text : String}
    (h : source.expression = .ok text) (count : Nat) :
    ∃ ls, Lexeme.Reads count 0 1 1 text.toList ls ∧
      ((∀ l ∈ ls, l.isLiteral = false) ∨ source = .compact) := by
  have hplain {cs : List Char} (hcs : Lexeme.Harmless count 0 0 0 cs) :
      ∃ ls, Lexeme.Reads count 0 1 1 cs ls ∧
        ((∀ l ∈ ls, l.isLiteral = false) ∨ source = .compact) := by
    obtain ⟨ls, hls, hl⟩ := hcs.deeper 1
    exact ⟨ls, hls, Or.inl hl⟩
  cases source with
  | builtIn | extension =>
    rw [← Except.ok.inj h]
    exact hplain (Lexeme.PlainText.harmless (by decide) count)
  | compact =>
    rw [← Except.ok.inj h]
    exact ⟨compactLexemes, reads_compact count, Or.inr rfl⟩
  | custom expression =>
    obtain ⟨f, hf, rfl⟩ := map_eq_ok_iff.mp h
    exact hplain (by simpa [Template.fragment] using Template.harmless_fragment hf count)

end IdentifierSource

namespace Template

lemma joined_snoc (separator : String) (ts : List Template) (t : Template) :
    joined separator (ts ++ [t]) =
      (if ts = [] then empty else joined separator ts ++ text separator) ++ t := by
  induction ts with
  | nil => simp [joined]
  | cons u us ih =>
    cases us with
    | nil => simp [joined]
    | cons v vs => simp_all [joined, append_assoc]

/-- The text of a template ends with a spacer. -/
def EndsSpaced (t : Template) : Prop :=
  ∀ count, (t.sqlFrom count).toList.getLast?.any Lexeme.isSpacer = true

lemma endsSpaced_append_text (t : Template) {s : String}
    (h : s.toList.getLast?.any Lexeme.isSpacer = true) : (t ++ text s).EndsSpaced := by
  obtain ⟨c, hc, hspacer⟩ := (Option.any_eq_true _ _).mp h
  intro count
  simp [List.getLast?_append, hc, hspacer]

theorem Harmless.clean {t : Template} (h : t.Harmless 0 0) :
    ∃ ls, Lexeme.scan t.statement.sql.toList = some ls ∧
      Lexeme.Clean t.statement.params.length ls ∧ ∀ l ∈ ls, l.isLiteral = false := by
  obtain ⟨ls, hls, hl⟩ := h 0
  exact ⟨ls, hls.scanned, hls.tidy.clean, hl⟩

theorem clean_around {settings : Settings} {r : Operation} {front rest : Template} {s e : String}
    (hr : r.isInsertion = true) (hfront : front.Harmless 0 1) (hends : front.EndsSpaced)
    (he : settings.identifierSource.expression = .ok e) (hrest : (text s ++ rest).Harmless 1 0)
    (hhead : s.toList.head?.any Lexeme.isSpacer = true) :
    ∃ ls, Lexeme.scan (front ++ text e ++ (text s ++ rest)).statement.sql.toList = some ls ∧
      Lexeme.Clean (front ++ text e ++ (text s ++ rest)).statement.params.length ls ∧
        r.StringsAllowed settings ls := by
  obtain ⟨c, hc, hcspacer⟩ := (Option.any_eq_true _ _).mp (hends 0)
  obtain ⟨d, hd, hdspacer⟩ := (Option.any_eq_true _ _).mp hhead
  obtain ⟨ls, hls, hl⟩ := hfront 0
  obtain ⟨ms, hms, hm⟩ := IdentifierSource.reads_expression he (0 + front.params.length)
  obtain ⟨ns, hns, hn⟩ := hrest (0 + (front.params.length + 0))
  have hdrest : ((text s ++ rest).sqlFrom (0 + (front.params.length + 0))).toList.head? =
      some d := by
    simp [List.head?_append, hd]
  have hall := (hls.append_of_last hms hcspacer hc).append_of_head hns hdspacer hdrest
  refine ⟨ls ++ ms ++ ns, ?_, ?_, ?_⟩
  · simpa [statement, sql_eq_sqlFrom] using hall.scanned
  · simpa [statement] using hall.tidy.clean
  · rcases hm with hm | hcompact
    · exact Or.inl (Lexeme.forall_not_isLiteral_append
        (Lexeme.forall_not_isLiteral_append hl hm) hn)
    · right
      refine ⟨hr, hcompact, ls, ms, ns, e, rfl, ?_, hms.scanned,
        Lexeme.forall_not_isLiteral_append hl hn⟩
      rw [← hcompact, he]

end Template

namespace Record

open Template

/-- An insertion up to its values. -/
def insertionStart (table : Identifier) (names : List Identifier) : Template :=
  .text "INSERT INTO " ++ .identifier table ++ .text " (" ++
    .joined ", " (names.map Template.identifier)

lemma insertionStart_harmless {table : Identifier} {names : List Identifier}
    (htable : table.IsProper) (hnames : ∀ i ∈ names, i.IsProper) :
    (insertionStart table names).Harmless 0 1 := by
  have hstart : (.text "INSERT INTO " ++ .identifier table : Template).Harmless 0 0 :=
    .text_append (by decide) (by decide) (harmless_identifier htable 0)
  have hjoined : (joined ", " (names.map Template.identifier)).Harmless 0 0 := by
    refine Template.Harmless.joined (by decide) ?_
    intro t ht
    obtain ⟨i, hi, rfl⟩ := List.mem_map.mp ht
    exact harmless_identifier (hnames i hi) 0
  exact hstart.spaced (by decide) (hjoined.deeper 1)

lemma joined_slots_harmless (values : List Value) :
    (joined ", " (values.map slot)).Harmless 0 0 := by
  refine Template.Harmless.joined (by decide) ?_
  intro t ht
  obtain ⟨v, -, rfl⟩ := List.mem_map.mp ht
  exact harmless_slot v 0

theorem insertion_none_harmless {table : Identifier} {columns : List Identifier}
    (htable : table.IsProper) (hcolumns : ∀ i ∈ columns, i.IsProper) (values : List Value) :
    (.text "INSERT INTO " ++ .identifier table ++ insertion columns values none :
      Template).Harmless 0 0 := by
  have hvalues := (insertionStart_harmless htable hcolumns).spaced (s := ") VALUES (") (by decide)
    ((joined_slots_harmless values).deeper 1)
  have hclosing : Lexeme.PlainText 1 0 ")".toList := by decide
  have hall := hvalues.append_text hclosing (by decide)
  simpa [insertion, insertionStart, append_assoc] using hall

/-- An insertion whose last value is an expression. -/
theorem insertion_some_eq (table name : Identifier) (columns : List Identifier)
    (values : List Value) (expression : String) :
    ∃ front : Template,
      .text "INSERT INTO " ++ .identifier table ++
          insertion columns values (some (name, expression)) =
        front ++ .text expression ++ .text ")" ∧
      front.EndsSpaced ∧
        (table.IsProper → name.IsProper → (∀ i ∈ columns, i.IsProper) → front.Harmless 0 1) := by
  have hnames (htable : table.IsProper) (hname : name.IsProper)
      (hcolumns : ∀ i ∈ columns, i.IsProper) :
      (insertionStart table (columns ++ [name])).Harmless 0 1 := by
    refine insertionStart_harmless htable ?_
    intro i hi
    rcases List.mem_append.mp hi with hi | hi
    · exact hcolumns i hi
    · rwa [List.mem_singleton.mp hi]
  have hsplit := joined_snoc ", " (values.map slot) (text expression)
  -- without values no comma stands in front of the expression
  by_cases hvalues : values = []
  · refine ⟨insertionStart table (columns ++ [name]) ++ .text ") VALUES (", ?_, ?_, ?_⟩
    · simp [insertion, insertionStart, append_assoc, hvalues, joined]
    · exact endsSpaced_append_text _ (by decide)
    · intro htable hname hcolumns
      exact (hnames htable hname hcolumns).append_text (by decide) (by decide)
  · rw [if_neg (by simpa using hvalues)] at hsplit
    refine ⟨insertionStart table (columns ++ [name]) ++ .text ") VALUES (" ++
      joined ", " (values.map slot) ++ .text ", ", ?_, ?_, ?_⟩
    · simp [insertion, insertionStart, append_assoc, hsplit]
    · exact endsSpaced_append_text _ (by decide)
    · intro htable hname hcolumns
      have hspaced := (hnames htable hname hcolumns).spaced (s := ") VALUES (") (by decide)
        ((joined_slots_harmless values).deeper 1)
      exact hspaced.append_text (by decide) (by decide)

variable {settings : Settings} {record : Record} {table : String}

theorem insertTemplate_harmless_or {identifier : Option String} {t : Template}
    (h : (record.insertTemplate settings table identifier).outcome = .ok t) :
    t.Harmless 0 0 ∨
      ∃ (front : Template) (expression : String), t = front ++ .text expression ++ .text ")" ∧
        settings.identifierSource.expression = .ok expression ∧ front.EndsSpaced ∧
          front.Harmless 0 1 := by
  obtain ⟨i, hi, generated, hgenerated, h⟩ := insertTemplate_eq_ok_iff.mp h
  have htable := Identifier.parse_isProper hi
  split_ifs at h
  · left
    have hstart : (.text "INSERT INTO " ++ .identifier i : Template).Harmless 0 0 :=
      .text_append (by decide) (by decide) (harmless_identifier htable 0)
    rw [← h]
    exact hstart.append_text (by decide) (by decide)
  · obtain ⟨columns, hparsed, rfl⟩ := h
    have hcolumns : ∀ j ∈ columns, j.IsProper := by
      intro j hj
      obtain ⟨column, -, hcolumn⟩ := exists_of_forall₂_mem (mapM_eq_ok_iff.mp hparsed) hj
      exact Identifier.parse_isProper hcolumn
    cases generated with
    | none => exact Or.inl (insertion_none_harmless htable hcolumns _)
    | some made =>
      obtain ⟨name, expression⟩ := made
      right
      obtain ⟨hname, hexpression⟩ : name.IsProper ∧
          settings.identifierSource.expression = .ok expression := by
        rw [generated_eq_ok_iff] at hgenerated
        cases identifier with
        | none => simp at hgenerated
        | some column =>
          simp only at hgenerated
          split_ifs at hgenerated
          obtain ⟨other, hother, text, htext, hmade⟩ := hgenerated
          simp only [Option.some.injEq, Prod.mk.injEq] at hmade
          rw [← hmade.1, ← hmade.2]
          exact ⟨Identifier.parse_isProper hother, htext⟩
      obtain ⟨front, heq, hends, hfront⟩ :=
        insertion_some_eq i name columns record.values expression
      exact ⟨front, expression, heq, hexpression, hends, hfront htable hname hcolumns⟩

theorem assignment_harmless {entry : String × Value} {t : Template}
    (h : assignment entry = .ok t) : t.Harmless 0 0 := by
  obtain ⟨column, v⟩ := entry
  obtain ⟨i, hi, h⟩ := bind_eq_ok_iff.mp h
  rw [pure_eq_ok_iff] at h
  rw [← h]
  exact (harmless_identifier (Identifier.parse_isProper hi) 0).spaced (by decide)
    (harmless_slot v 0)

theorem updateStatement_harmless {criteria : Criteria} {st : Statement}
    (h : (record.updateStatement settings table criteria).outcome = .ok st) :
    ∃ t : Template, t.statement = st ∧ t.Harmless 0 0 := by
  obtain ⟨i, hi, -, -, assignments, hassignments, cs, hcs, t, ht, h⟩ :=
    updateStatement_eq_ok_iff.mp h
  refine ⟨_, h, ?_⟩
  have hstart : (.text "UPDATE " ++ .identifier i : Template).Harmless 0 0 :=
    .text_append (by decide) (by decide)
      (harmless_identifier (Identifier.parse_isProper hi) 0)
  have hjoined : (joined ", " assignments).Harmless 0 0 := by
    refine Template.Harmless.joined (by decide) ?_
    exact mapM_harmless hassignments fun _ _ => assignment_harmless
  exact (hstart.spaced (by decide) hjoined).spaced (by decide)
    (Clause.assemble_harmless ht (Criteria.clauses_harmless hcs))

end Record

namespace Criteria

variable {settings : Settings} {criteria : Criteria} {table : String} {st : Statement}

theorem count_harmless (h : (criteria.count settings table).outcome = .ok st) :
    ∃ t : Template, t.statement = st ∧ t.Harmless 0 0 := by
  obtain ⟨u, hu, cs, hcs, t, ht, h⟩ := count_eq_ok_iff.mp h
  refine ⟨t, h, Clause.assemble_harmless ht ?_⟩
  intro c hc
  simp only [List.cons_append, List.nil_append, List.mem_cons] at hc
  rcases hc with rfl | rfl | hc
  · exact Template.harmless_text (by decide)
  · exact tableTerm_harmless hu
  · exact clauses_harmless hcs c hc

theorem lookup_harmless {expression : String}
    (h : (criteria.lookup settings expression table).outcome = .ok st) :
    ∃ t : Template, t.statement = st ∧ t.Harmless 0 0 := by
  obtain ⟨e, he, u, hu, cs, hcs, t, ht, h⟩ := lookup_eq_ok_iff.mp h
  refine ⟨t, h, Clause.assemble_harmless ht ?_⟩
  intro c hc
  simp only [List.cons_append, List.nil_append, List.mem_cons] at hc
  rcases hc with rfl | rfl | rfl | hc
  · exact expressionTerm_harmless he
  · exact tableTerm_harmless hu
  · exact Template.harmless_text (by decide)
  · exact clauses_harmless hcs c hc

theorem deleteStatement_harmless (h : (criteria.deleteStatement settings table).outcome = .ok st) :
    ∃ t : Template, t.statement = st ∧ t.Harmless 0 0 := by
  obtain ⟨i, hi, -, cs, hcs, t, ht, h⟩ := deleteStatement_eq_ok_iff.mp h
  refine ⟨_, h, ?_⟩
  have hstart : (.text "DELETE FROM " ++ .identifier i : Template).Harmless 0 0 :=
    .text_append (by decide) (by decide)
      (Template.harmless_identifier (Identifier.parse_isProper hi) 0)
  exact hstart.spaced (by decide) (Clause.assemble_harmless ht (clauses_harmless hcs))

end Criteria

theorem Query.statement_harmless {settings : Settings} {q : Query} {st : Statement}
    (h : (q.statement settings).outcome = .ok st) :
    ∃ t : Template, t.statement = st ∧ t.Harmless 0 0 := by
  obtain ⟨cs, hcs, t, ht, h⟩ := statement_eq_ok_iff.mp h
  exact ⟨t, h, Clause.assemble_harmless ht (clauses_harmless hcs)⟩

namespace Operation

variable {settings : Settings} {r : Operation} {st : Statement}

lemma clean_of_harmless (h : ∃ t : Template, t.statement = st ∧ t.Harmless 0 0) :
    ∃ ls, Lexeme.scan st.sql.toList = some ls ∧ Lexeme.Clean st.params.length ls ∧
      r.StringsAllowed settings ls := by
  obtain ⟨t, rfl, ht⟩ := h
  obtain ⟨ls, hscan, hclean, hl⟩ := ht.clean
  exact ⟨ls, hscan, hclean, Or.inl hl⟩

/-- The statement of an operation that succeeds is clean: its quoted names and strings are closed,
no mark outside of them ends a statement or begins a comment, its parentheses balance, and its
placeholders are numbered from one on in order, one for each parameter. -/
theorem statement_clean (h : (r.statement settings).outcome = .ok st) :
    ∃ ls, Lexeme.scan st.sql.toList = some ls ∧ Lexeme.Clean st.params.length ls ∧
      r.StringsAllowed settings ls := by
  cases r with
  | select q => exact clean_of_harmless (Query.statement_harmless h)
  | count table criteria => exact clean_of_harmless (Criteria.count_harmless h)
  | lookup expression table criteria => exact clean_of_harmless (Criteria.lookup_harmless h)
  | update table record criteria => exact clean_of_harmless (Record.updateStatement_harmless h)
  | delete table criteria => exact clean_of_harmless (Criteria.deleteStatement_harmless h)
  | insert table record identifier =>
    obtain ⟨t, ht, rfl⟩ := Record.insertStatement_eq_ok_iff.mp h
    rcases Record.insertTemplate_harmless_or ht with ht | ⟨front, e, rfl, he, hends, hfront⟩
    · exact clean_of_harmless ⟨t, rfl, ht⟩
    · have hrest : (.text ")" ++ .empty : Template).Harmless 1 0 :=
        Template.harmless_text (by decide)
      exact Template.clean_around rfl hfront hends he hrest (by decide)
  | insertReturning table record identifier =>
    obtain ⟨i, hi, t, ht, rfl⟩ := Record.insertReturning_eq_ok_iff.mp h
    have hreturning := Template.harmless_identifier (Identifier.parse_isProper hi) 0
    rcases Record.insertTemplate_harmless_or ht with ht | ⟨front, e, rfl, he, hends, hfront⟩
    · exact clean_of_harmless ⟨_, rfl, ht.spaced (by decide) hreturning⟩
    · have hclosing : (.text ")" : Template).Harmless 1 0 := Template.harmless_text (by decide)
      have hrest := hclosing.spaced (s := " RETURNING ") (by decide) hreturning
      rw [Template.append_assoc] at hrest
      have hclean := Template.clean_around (r := .insertReturning table record identifier) rfl
        hfront hends he hrest (by decide)
      simpa only [Template.append_assoc] using hclean

/-- An insertion of a name and a text that look like SQL. -/
def hostileInsertion : Operation :=
  .insertReturning "app.\"we;ird--$9\"" ⟨[("a$1", .text "'; --"), ("note", .null)]⟩ "id"

theorem statement_clean_hostileInsertion :
    ∃ st, (hostileInsertion.statement { identifierSource := .compact }).outcome = .ok st ∧
      st.sql = "INSERT INTO app.\"we;ird--$9\" (a$1, note, id) VALUES " ++
        "($1, $2, replace(gen_random_uuid()::text, '-', '')) RETURNING id" ∧
      ∃ ls, Lexeme.scan st.sql.toList = some ls ∧ Lexeme.Clean st.params.length ls ∧
        hostileInsertion.StringsAllowed { identifierSource := .compact } ls := by
  refine exists_statement_of_sql (by decide +kernel) ?_
  exact fun st hst => statement_clean hst

end Operation
end TableAccess
