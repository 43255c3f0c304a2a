import TableAccess.Proofs.Outcome
import TableAccess.Statement.Read
import TableAccess.Statement.Write

/-!
# Operations

An `Operation` is one of the seven ways in which a caller asks for a statement, with all that the
caller supplies. For each of them a lemma lists the checks that have succeeded when there is a
statement, and says which template the statement comes from.
-/

namespace TableAccess

/-- What a caller asks for. -/
inductive Operation where
  | select (q : Query)
  | count (table : String) (criteria : Criteria)
  | lookup (expression table : String) (criteria : Criteria)
  | insert (table : String) (record : Record) (identifier : Option String)
  | insertReturning (table : String) (record : Record) (identifier : String)
  | update (table : String) (record : Record) (criteria : Criteria)
  | delete (table : String) (criteria : Criteria)

/-- The statement of an operation. -/
def Operation.statement (settings : Settings) : Operation → Traced Statement
  | select q => q.statement settings
  | count table criteria => criteria.count settings table
  | lookup expression table criteria => criteria.lookup settings expression table
  | insert table record identifier => record.insertStatement settings table identifier
  | insertReturning table record identifier => record.insertReturning settings table identifier
  | update table record criteria => record.updateStatement settings table criteria
  | delete table criteria => criteria.deleteStatement settings table

/-- What holds of every statement of a call holds of the one whose text is known. -/
lemma Operation.exists_statement_of_sql {t : Traced Statement} {s : String} {p : Statement → Prop}
    (hsql : t.outcome.toOption.map Statement.sql = some s)
    (hp : ∀ st, t.outcome = .ok st → p st) :
    ∃ st, t.outcome = .ok st ∧ st.sql = s ∧ p st := by
  cases houtcome : t.outcome with
  | error e => simp [houtcome, Except.toOption] at hsql
  | ok st => exact ⟨st, rfl, by simpa [houtcome, Except.toOption] using hsql, hp st houtcome⟩

variable {settings : Settings} {st : Statement}

lemma Clause.statement_eq_ok_iff {cs : List Clause} :
    (Clause.statement settings cs).outcome = .ok st ↔
      ∃ t, (assemble settings cs).outcome = .ok t ∧ t.statement = st := by
  simp only [Clause.statement, Traced.outcome_bind_eq_ok_iff, Traced.outcome_pure_eq_ok_iff]

theorem Query.statement_eq_ok_iff {q : Query} :
    (q.statement settings).outcome = .ok st ↔
      ∃ cs, q.clauses settings = .ok cs ∧
        ∃ t, (Clause.assemble settings cs).outcome = .ok t ∧ t.statement = st := by
  simp only [Query.statement, Traced.outcome_bind_eq_ok_iff, Traced.outcome_checked_eq_ok_iff,
    Clause.statement_eq_ok_iff]

namespace Criteria

variable {criteria : Criteria} {table : String}

theorem count_eq_ok_iff :
    (criteria.count settings table).outcome = .ok st ↔
      ∃ u, tableTerm table = .ok u ∧ ∃ cs, criteria.clauses = .ok cs ∧
        ∃ t, (Clause.assemble settings
          ([⟨.column, .text "COUNT(*)"⟩, ⟨.table, u⟩] ++ cs)).outcome = .ok t ∧
          t.statement = st := by
  simp only [count, Traced.outcome_bind_eq_ok_iff, Traced.outcome_checked_eq_ok_iff,
    Clause.statement_eq_ok_iff]

theorem lookup_eq_ok_iff {expression : String} :
    (criteria.lookup settings expression table).outcome = .ok st ↔
      ∃ e, expressionTerm expression = .ok e ∧ ∃ u, tableTerm table = .ok u ∧
        ∃ cs, criteria.clauses = .ok cs ∧
          ∃ t, (Clause.assemble settings ([⟨.column, e⟩, ⟨.table, u⟩,
            ⟨.paging, .text "LIMIT 1"⟩] ++ cs)).outcome = .ok t ∧ t.statement = st := by
  simp only [lookup, Traced.outcome_bind_eq_ok_iff, Traced.outcome_checked_eq_ok_iff,
    Clause.statement_eq_ok_iff]

theorem deleteStatement_eq_ok_iff :
    (criteria.deleteStatement settings table).outcome = .ok st ↔
      ∃ i, Identifier.parse table = .ok i ∧ criteria.isEmpty = false ∧
        ∃ cs, criteria.clauses = .ok cs ∧
          ∃ t, (Clause.assemble settings cs).outcome = .ok t ∧
            (.text "DELETE FROM " ++ .identifier i ++ .text " " ++ t : Template).statement = st := by
  simp only [deleteStatement, Traced.outcome_bind_eq_ok_iff, Traced.outcome_checked_eq_ok_iff]
  cases hempty : criteria.isEmpty <;>
    simp [Traced.outcome_bind_eq_ok_iff]

end Criteria

namespace Record

variable {record : Record} {table : String}

theorem updateStatement_eq_ok_iff {criteria : Criteria} :
    (record.updateStatement settings table criteria).outcome = .ok st ↔
      ∃ i, Identifier.parse table = .ok i ∧ record.isEmpty = false ∧ criteria.isEmpty = false ∧
        ∃ assignments, record.entries.mapM assignment = .ok assignments ∧
          ∃ cs, criteria.clauses = .ok cs ∧
            ∃ t, (Clause.assemble settings cs).outcome = .ok t ∧
              (.text "UPDATE " ++ .identifier i ++ .text " SET " ++ .joined ", " assignments ++
                .text " " ++ t : Template).statement = st := by
  simp only [updateStatement, Traced.outcome_bind_eq_ok_iff, Traced.outcome_checked_eq_ok_iff]
  cases hrecord : record.isEmpty <;> cases hempty : criteria.isEmpty <;>
    simp [Traced.outcome_bind_eq_ok_iff]

theorem generated_eq_ok_iff {i : Identifier} {identifier : Option String}
    {generated : Option Generated} :
    (record.generated settings i identifier).outcome = .ok generated ↔
      match identifier with
      | none => none = generated
      | some column =>
        if record.contains column then none = generated
        else ∃ name, Identifier.parse column = .ok name ∧
          ∃ expression, settings.identifierSource.expression = .ok expression ∧
            some (name, expression) = generated := by
  cases identifier with
  | none =>
    change Except.ok none = .ok generated ↔ _
    simp
  | some column =>
    rw [Record.generated]
    by_cases hc : record.contains column = true
    · simp [hc]
    · simp [hc, Traced.outcome_bind_eq_ok_iff]

theorem insertTemplate_eq_ok_iff {identifier : Option String} {t : Template} :
    (record.insertTemplate settings table identifier).outcome = .ok t ↔
      ∃ i, Identifier.parse table = .ok i ∧
        ∃ generated, (record.generated settings i identifier).outcome = .ok generated ∧
          if record.isEmpty && generated.isNone then
            .text "INSERT INTO " ++ .identifier i ++ .text " DEFAULT VALUES" = t
          else ∃ columns, record.columns.mapM Identifier.parse = .ok columns ∧
            .text "INSERT INTO " ++ .identifier i ++
              insertion columns record.values generated = t := by
  simp only [insertTemplate, Traced.outcome_bind_eq_ok_iff, Traced.outcome_checked_eq_ok_iff]
  constructor
  · rintro ⟨i, hi, generated, hgenerated, h⟩
    refine ⟨i, hi, generated, hgenerated, ?_⟩
    split_ifs at h ⊢ <;> simpa [Traced.outcome_bind_eq_ok_iff] using h
  · rintro ⟨i, hi, generated, hgenerated, h⟩
    refine ⟨i, hi, generated, hgenerated, ?_⟩
    split_ifs at h ⊢ <;> simpa [Traced.outcome_bind_eq_ok_iff] using h

theorem insertStatement_eq_ok_iff {identifier : Option String} :
    (record.insertStatement settings table identifier).outcome = .ok st ↔
      ∃ t, (record.insertTemplate settings table identifier).outcome = .ok t ∧
        t.statement = st := by
  simp only [insertStatement, Traced.outcome_bind_eq_ok_iff, Traced.outcome_pure_eq_ok_iff]

theorem insertReturning_eq_ok_iff {identifier : String} :
    (record.insertReturning settings table identifier).outcome = .ok st ↔
      ∃ i, Identifier.parse identifier = .ok i ∧
        ∃ t, (record.insertTemplate settings table (some identifier)).outcome = .ok t ∧
          (t ++ .text " RETURNING " ++ .identifier i).statement = st := by
  simp only [insertReturning, Traced.outcome_bind_eq_ok_iff, Traced.outcome_checked_eq_ok_iff,
    Traced.outcome_pure_eq_ok_iff]

end Record
end TableAccess
