import TableAccess.Record
import TableAccess.Statement.Terms

/-!
# Statements that read

`Query.statement` reads rows, `Criteria.count` and `Criteria.lookup` one cell, and
`Identifier.columnsStatement` the columns of a table.
-/

namespace TableAccess

def Clause.statement (settings : Settings) (clauses : List Clause) : Traced Statement := do
  return (← assemble settings clauses).statement

def Query.statement (settings : Settings) (q : Query) : Traced Statement := do
  Clause.statement settings (← .checked (q.clauses settings))

namespace Criteria

/-- Counts the rows of a table that meet the criteria. -/
def count (settings : Settings) (table : String) (c : Criteria) : Traced Statement := do
  let table ← Traced.checked (tableTerm table)
  let clauses ← Traced.checked c.clauses
  Clause.statement settings ([⟨.column, .text "COUNT(*)"⟩, ⟨.table, table⟩] ++ clauses)

/-- Reads an expression of the first row of a table that meets the criteria. -/
def lookup (settings : Settings) (expression table : String) (c : Criteria) :
    Traced Statement := do
  let expression ← Traced.checked (expressionTerm expression)
  let table ← Traced.checked (tableTerm table)
  let clauses ← Traced.checked c.clauses
  Clause.statement settings
    ([⟨.column, expression⟩, ⟨.table, table⟩, ⟨.paging, .text "LIMIT 1"⟩] ++ clauses)

end Criteria

/-- Reads the names of the columns of a table in order, those that were dropped apart. -/
def Identifier.columnsStatement (table : Identifier) : Statement :=
  Template.statement <|
    .text ("SELECT a.attname::text AS column_name FROM pg_catalog.pg_attribute a " ++
      "WHERE a.attrelid = to_regclass(") ++
    .slot (.text table.sql) ++
    .text "::text) AND a.attnum > 0 AND NOT a.attisdropped ORDER BY a.attnum"

end TableAccess
