import TableAccess.Proofs.Renumbering
import TableAccess.Proofs.TableReferences

/-!
# One criteria, one meaning

A caller who counts the rows that meet criteria before deleting or updating them relies on the
three statements having the same condition. `Criteria.statements_agree` says so: counting and
looking up are queries, deleting has the WHERE clause of the count as it is, and updating has it
behind the placeholders of the new values.
-/

namespace TableAccess

namespace Traced

variable {α β : Type}

/-- Two calls fail in the same cases, and with the same error. -/
def FailAlike (t : Traced α) (u : Traced β) : Prop :=
  ∀ e, t.outcome = .error e ↔ u.outcome = .error e

/-- Calls that make something of the same checked input fail alike. -/
lemma failAlike_checked_map {γ : Type} (x : Except Refusal γ) (f : γ → α) (g : γ → β) :
    (checked (x.map f)).FailAlike (checked (x.map g)) := by
  cases x <;> simp [FailAlike, checked, Except.map, Except.mapError]

end Traced

namespace Record

/-- The assignments of an update, whose values are the first ones. -/
def assignedText (names : List Identifier) : String :=
  Reference.linked ((names.zipIdx 1).map fun (name, k) =>
    (", ", name.sql ++ " = $" ++ toString k))

example : assignedText [⟨[.plain "a"]⟩, ⟨[.quoted "b c"]⟩] = "a = $1, \"b c\" = $2" := by decide

/-- The assignments of columns that all have a name. -/
lemma mapM_assignment {entries : Entries Value} {names : List Identifier}
    (h : entries.keys.mapM Identifier.parse = .ok names) :
    ∃ ts, entries.mapM assignment = .ok ts ∧ ts.flatMap Template.params = entries.map Prod.snd ∧
      ∀ count, Template.texts count ts = (names.zipIdx (count + 1)).map fun (name, k) =>
        name.sql ++ " = $" ++ toString k := by
  induction entries generalizing names with
  | nil =>
    rw [← Except.ok.inj h]
    exact ⟨[], rfl, rfl, fun _ => rfl⟩
  | cons entry rest ih =>
    obtain ⟨column, v⟩ := entry
    rw [Entries.keys_cons, List.mapM_cons] at h
    obtain ⟨name, hname, h⟩ := bind_eq_ok_iff.mp h
    obtain ⟨names, hnames, h⟩ := bind_eq_ok_iff.mp h
    rw [pure_eq_ok_iff] at h
    obtain ⟨ts, hts, hparams, htexts⟩ := ih hnames
    refine ⟨(.identifier name ++ .text " = " ++ .slot v) :: ts, ?_, ?_, ?_⟩
    · rw [List.mapM_cons, assignment, hname, hts]
      rfl
    · simp [hparams]
    · intro count
      have hequals (s : String) : " = " ++ ("$" ++ s) = " = $" ++ s :=
        String.append_assoc.symm
      simp [← h, Template.texts, htexts, Template.identifier, hequals, String.append_assoc]

lemma joined_assignments {r : Record} {names : List Identifier} {ts : List Template}
    (hnames : r.columns.mapM Identifier.parse = .ok names)
    (h : r.entries.mapM assignment = .ok ts) :
    (Template.joined ", " ts).sqlFrom 0 = assignedText names ∧
      (Template.joined ", " ts).params = r.values := by
  obtain ⟨us, hus, hparams, htexts⟩ := mapM_assignment hnames
  rw [hus, Except.ok.injEq] at h
  rw [← h]
  constructor
  · rw [← Template.linked_eq_joined, Template.sqlFrom_linked, Template.linkTexts_map, htexts,
      assignedText, List.map_map]
    rfl
  · rw [Template.params_joined]
    exact hparams

end Record

namespace Criteria

variable (settings : Settings) (c : Criteria)

/-- What reads an expression of the rows that meet criteria, up to the paging. -/
def reading (expression table : String) : Except Refusal Template := do
  let expression ← expressionTerm expression
  let table ← tableTerm table
  let condition ← Restriction.chain settings.letterCase " WHERE " c.restrictions
  return .text "SELECT " ++ expression ++ .text " FROM " ++ table ++ condition

lemma query_statement_eq_reading (expression table : String) {limit : Option Int64}
    {ps : List Template} (h : pagingTerm "LIMIT" limit = .ok ps) :
    (c.query expression table limit).statement settings =
      .checked ((c.reading settings expression table).map fun t =>
        (t ++ .headed " " (ps.map (" ", ·))).statement) := by
  rw [query_statement_eq, h, reading]
  cases expressionTerm expression with
  | error cause => rfl
  | ok e =>
    cases tableTerm table with
    | error cause => rfl
    | ok t => cases Restriction.chain settings.letterCase " WHERE " c.restrictions <;> rfl

lemma lookup_eq_reading (expression table : String) :
    c.lookup settings expression table =
      .checked ((c.reading settings expression table).map fun t =>
        (t ++ .headed " " [(" ", .text "LIMIT 1")]).statement) := by
  rw [lookup_eq, reading]
  cases expressionTerm expression with
  | error cause => rfl
  | ok e =>
    cases tableTerm table with
    | error cause => rfl
    | ok t => cases Restriction.chain settings.letterCase " WHERE " c.restrictions <;> rfl

/-- Counting is a query. -/
theorem count_eq_query (table : String) :
    c.count settings table = (c.query "COUNT(*)" table none).statement settings := by
  have hparse : Fragment.parse "COUNT(*)" = .ok ⟨"COUNT(*)"⟩ := by decide +kernel
  have hcount : expressionTerm "COUNT(*)" = .ok (.text "COUNT(*)") :=
    expressionTerm_eq_ok_iff.mpr ⟨_, hparse, rfl⟩
  rw [query_statement_eq_reading settings c _ table rfl, count_eq, reading, hcount]
  cases tableTerm table with
  | error cause => rfl
  | ok t =>
    cases Restriction.chain settings.letterCase " WHERE " c.restrictions with
    | error cause => rfl
    | ok condition =>
      change Traced.checked (.ok _) = Traced.checked (.ok (_ ++ Template.empty).statement)
      rw [Template.append_empty]

/-- Looking up is a query for one row, but for how the one is written. -/
theorem lookup_eq_query (expression table : String) :
    (c.lookup settings expression table).FailAlike
        ((c.query expression table (some 1)).statement settings) ∧
      ∀ st, (c.lookup settings expression table).outcome = .ok st →
        ∃ front, st.sql = front ++ "LIMIT 1" ∧
          ((c.query expression table (some 1)).statement settings).outcome =
            .ok ⟨front ++ "LIMIT $" ++ toString (st.params.length + 1), st.params ++ [.int 1]⟩ := by
  have hpaging : pagingTerm "LIMIT" (some 1) = .ok [.text "LIMIT " ++ .slot (.int 1)] := rfl
  rw [lookup_eq_reading, query_statement_eq_reading settings c expression table hpaging]
  refine ⟨Traced.failAlike_checked_map _ _ _, ?_⟩
  intro st hst
  rw [Traced.outcome_checked_eq_ok_iff, map_eq_ok_iff] at hst
  obtain ⟨t, ht, rfl⟩ := hst
  refine ⟨t.sql ++ " ", ?_, ?_⟩
  · simp [Template.sql_eq_sqlFrom, Template.continued, String.append_assoc]
  · rw [Traced.outcome_checked_eq_ok_iff, map_eq_ok_iff]
    refine ⟨t, ht, ?_⟩
    have hlimit (s : String) : " " ++ ("LIMIT " ++ ("$" ++ s)) = " LIMIT $" ++ s := by
      rw [← String.append_assoc, ← String.append_assoc]
      rfl
    simp [Template.statement, Template.sql_eq_sqlFrom, Template.continued, hlimit,
      String.append_assoc]

section Write

variable {settings c} {table : String} {i : Identifier}

lemma count_eq_map (hi : Identifier.parse table = .ok i) :
    c.count settings table =
      .checked ((c.restrictions.mapM (Restriction.term settings.letterCase)).map fun ts =>
        (.text "SELECT " ++ .text "COUNT(*)" ++ .text " FROM " ++ .identifier i ++
          .conjoined " WHERE " ts : Template).statement) := by
  have htable : tableTerm table = .ok (.identifier i) :=
    tableTerm_eq_ok_iff.mpr ⟨_, Identifier.parse_tableReference hi, rfl⟩
  rw [count_eq, htable, Restriction.chain]
  cases c.restrictions.mapM (Restriction.term settings.letterCase) <;> rfl

lemma deleteStatement_eq_map (hi : Identifier.parse table = .ok i) (hc : c.isEmpty = false) :
    c.deleteStatement settings table =
      .checked ((c.restrictions.mapM (Restriction.term settings.letterCase)).map fun ts =>
        (.text "DELETE FROM " ++ .identifier i ++ .text " " ++ .conjoined "WHERE " ts :
          Template).statement) := by
  rw [deleteStatement_eq, hi, Restriction.chain, hc]
  cases c.restrictions.mapM (Restriction.term settings.letterCase) <;> rfl

lemma updateStatement_eq_map (hi : Identifier.parse table = .ok i) (hc : c.isEmpty = false)
    {r : Record} (hr : r.isEmpty = false) {assignments : List Template}
    (hassignments : r.entries.mapM Record.assignment = .ok assignments) :
    r.updateStatement settings table c =
      .checked ((c.restrictions.mapM (Restriction.term settings.letterCase)).map fun ts =>
        (.text "UPDATE " ++ .identifier i ++ .text " SET " ++ .joined ", " assignments ++
          .text " " ++ .conjoined "WHERE " ts : Template).statement) := by
  rw [Record.updateStatement_eq, hi, Restriction.chain, hc, hr, hassignments]
  cases c.restrictions.mapM (Restriction.term settings.letterCase) <;> rfl

/-- What stands between the keyword and the end of the count is the condition of the deletion,
and with raised placeholders that of the update. -/
theorem condition_of_count (hi : Identifier.parse table = .ok i) (hc : c.isEmpty = false)
    {st : Statement} (hst : (c.count settings table).outcome = .ok st) :
    ∃ chain, st.sql = "SELECT COUNT(*) FROM " ++ i.sql ++ " WHERE " ++ chain ∧
      (c.deleteStatement settings table).outcome =
        .ok ⟨"DELETE FROM " ++ i.sql ++ " WHERE " ++ chain, st.params⟩ ∧
      ∀ (r : Record) names, r.isEmpty = false → r.columns.mapM Identifier.parse = .ok names →
        ∃ raised, Lexeme.raise? r.size chain = some raised ∧
          (r.updateStatement settings table c).outcome =
            .ok ⟨"UPDATE " ++ i.sql ++ " SET " ++ Record.assignedText names ++ " WHERE " ++ raised,
              r.values ++ st.params⟩ := by
  rw [count_eq_map hi, Traced.outcome_checked_eq_ok_iff, map_eq_ok_iff] at hst
  obtain ⟨ts, hts, rfl⟩ := hst
  have hne := c.terms_ne_nil hc hts
  have hwhere (s : String) : " " ++ ("WHERE " ++ s) = " WHERE " ++ s :=
    String.append_assoc.symm
  refine ⟨(Template.joined " AND " ts).sqlFrom 0, ?_, ?_, ?_⟩
  · simp [Template.sql_eq_sqlFrom, Template.conjoined_eq hne, Template.identifier,
      String.append_assoc]
  · rw [deleteStatement_eq_map hi hc, Traced.outcome_checked_eq_ok_iff, map_eq_ok_iff]
    refine ⟨ts, hts, ?_⟩
    simp [Template.statement, Template.sql_eq_sqlFrom, Template.conjoined_eq hne,
      Template.identifier, hwhere, String.append_assoc]
  · intro r names hr hnames
    obtain ⟨assignments, hassignments, -⟩ := Record.mapM_assignment hnames
    obtain ⟨hassigned, hvalues⟩ := Record.joined_assignments hnames hassignments
    have hraise := (Restriction.joined_renumbers hts).raise?_eq 0 r.size
    refine ⟨_, hraise, ?_⟩
    rw [updateStatement_eq_map hi hc hr hassignments, Traced.outcome_checked_eq_ok_iff,
      map_eq_ok_iff]
    refine ⟨ts, hts, ?_⟩
    have hsize : r.values.length = r.size := by simp [Record.values, Record.size]
    simp [Template.statement, Template.sql_eq_sqlFrom, Template.conjoined_eq hne,
      Template.identifier, hassigned, hvalues, hsize, hwhere,
      String.append_assoc]

end Write

/-- Counting is a query, and so is looking up but for how the limit is written. Criteria that are
not empty mean the same to a deletion and to an update of a table without an alias: both fail like
the count, and otherwise have its condition, the update behind the placeholders of its values. -/
theorem statements_agree (settings : Settings) (c : Criteria) (table : String) :
    c.count settings table =
      ({ columns := ["COUNT(*)"], table, filter := c.filter, among := c.among } : Query).statement
        settings ∧
    (∀ expression,
      let row : Query :=
        { columns := [expression], table, filter := c.filter, among := c.among, limit := some 1 }
      (c.lookup settings expression table).FailAlike (row.statement settings) ∧
      ∀ st, (c.lookup settings expression table).outcome = .ok st →
        ∃ front, st.sql = front ++ "LIMIT 1" ∧
          (row.statement settings).outcome =
            .ok ⟨front ++ "LIMIT $" ++ toString (st.params.length + 1), st.params ++ [.int 1]⟩) ∧
    ∀ i, Identifier.parse table = .ok i → c.isEmpty = false →
      (c.count settings table).FailAlike (c.deleteStatement settings table) ∧
      (∀ (r : Record) names, r.isEmpty = false → r.columns.mapM Identifier.parse = .ok names →
        (c.count settings table).FailAlike (r.updateStatement settings table c)) ∧
      ∀ st, (c.count settings table).outcome = .ok st →
        ∃ chain, st.sql = "SELECT COUNT(*) FROM " ++ i.sql ++ " WHERE " ++ chain ∧
          (c.deleteStatement settings table).outcome =
            .ok ⟨"DELETE FROM " ++ i.sql ++ " WHERE " ++ chain, st.params⟩ ∧
          ∀ (r : Record) names, r.isEmpty = false → r.columns.mapM Identifier.parse = .ok names →
            ∃ raised, Lexeme.raise? r.size chain = some raised ∧
              (r.updateStatement settings table c).outcome =
                .ok ⟨"UPDATE " ++ i.sql ++ " SET " ++ Record.assignedText names ++ " WHERE " ++
                  raised, r.values ++ st.params⟩ := by
  refine ⟨c.count_eq_query settings table, fun e => c.lookup_eq_query settings e table, ?_⟩
  intro i hi hc
  refine ⟨?_, ?_, fun st hst => condition_of_count hi hc hst⟩
  · rw [count_eq_map hi, deleteStatement_eq_map hi hc]
    exact Traced.failAlike_checked_map _ _ _
  · intro r names hr hnames
    obtain ⟨assignments, hassignments, -⟩ := Record.mapM_assignment hnames
    rw [count_eq_map hi, updateStatement_eq_map hi hc hr hassignments]
    exact Traced.failAlike_checked_map _ _ _

def adults : Criteria where
  filter := [⟨"age", .ge, .int 18⟩]
  among := [⟨"city", [.int 1, .int 2]⟩]

theorem statements_agree_adults :
    let users : Identifier := ⟨[.plain "users"]⟩
    let ada : Record := ⟨[("name", .text "Ada")]⟩
    ∃ st, (adults.count {} "users").outcome = .ok st ∧
      st.sql = "SELECT COUNT(*) FROM users WHERE age >= $1 AND city IN ($2, $3)" ∧
      ∃ chain, st.sql = "SELECT COUNT(*) FROM " ++ users.sql ++ " WHERE " ++ chain ∧
        (adults.deleteStatement {} "users").outcome =
          .ok ⟨"DELETE FROM " ++ users.sql ++ " WHERE " ++ chain, st.params⟩ ∧
        ∃ raised, Lexeme.raise? 1 chain = some raised ∧
          (ada.updateStatement {} "users" adults).outcome =
            .ok ⟨"UPDATE " ++ users.sql ++ " SET " ++ Record.assignedText [⟨[.plain "name"]⟩] ++
              " WHERE " ++ raised, ada.values ++ st.params⟩ := by
  refine Operation.exists_statement_of_sql (by decide +kernel) ?_
  intro st hst
  obtain ⟨-, -, hwritten⟩ := statements_agree {} adults "users"
  obtain ⟨-, -, hcondition⟩ := hwritten ⟨[.plain "users"]⟩ (by decide +kernel) (by decide)
  obtain ⟨chain, hcount, hdelete, hupdate⟩ := hcondition st hst
  exact ⟨chain, hcount, hdelete, hupdate ⟨[("name", .text "Ada")]⟩ [⟨[.plain "name"]⟩] rfl
    (by decide +kernel)⟩

end Criteria
end TableAccess
