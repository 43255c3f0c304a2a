import TableAccess.Statement.Read

/-!
# Statements that write

Insertions can leave the identifier of the new row to the database. Updates and deletions refuse
to run without criteria.
-/

namespace TableAccess

/-- The expression that makes a value in the database, and the column that takes it. -/
abbrev Generated := Identifier × String

namespace Record

/-- What the database is to make for an identifier column: nothing if the record has it. -/
def generated (settings : Settings) (table : Identifier) (r : Record) :
    Option String → Traced (Option Generated)
  | none => .pure none
  | some column =>
    if r.contains column then ⟨[.identifierGiven table.sql column], .ok none⟩
    else do
      let name ← Traced.checked (Identifier.parse column)
      let expression ← Traced.checked settings.identifierSource.expression
      return some (name, expression)

def insertion (columns : List Identifier) (values : List Value) (generated : Option Generated) :
    Template :=
  let names := columns ++ generated.toList.map Prod.fst
  let entries := values.map Template.slot ++ generated.toList.map fun g => .text g.2
  .text " (" ++ .joined ", " (names.map Template.identifier) ++ .text ") VALUES (" ++
    .joined ", " entries ++ .text ")"

def insertTemplate (settings : Settings) (table : String) (r : Record)
    (identifier : Option String) : Traced Template := do
  let table ← Traced.checked (Identifier.parse table)
  let generated ← r.generated settings table identifier
  let start : Template := .text "INSERT INTO " ++ .identifier table
  if r.isEmpty && generated.isNone then return start ++ .text " DEFAULT VALUES"
  else
    let columns ← Traced.checked (r.columns.mapM Identifier.parse)
    return start ++ insertion columns r.values generated

/-- Inserts a record. An identifier column that the record lacks is filled by the database. -/
def insertStatement (settings : Settings) (table : String) (r : Record)
    (identifier : Option String) : Traced Statement := do
  return (← r.insertTemplate settings table identifier).statement

/-- Inserts a record and reads the identifier of the new row. -/
def insertReturning (settings : Settings) (table : String) (r : Record) (identifier : String) :
    Traced Statement := do
  let returning ← Traced.checked (Identifier.parse identifier)
  let insert ← r.insertTemplate settings table (some identifier)
  return (insert ++ .text " RETURNING " ++ .identifier returning).statement

def assignment : String × Value → Except Refusal Template
  | (column, v) => do
    return .identifier (← Identifier.parse column) ++ .text " = " ++ .slot v

def updateStatement (settings : Settings) (table : String) (r : Record) (c : Criteria) :
    Traced Statement := do
  let table ← Traced.checked (Identifier.parse table)
  if r.isEmpty then .refuse (.nothingToSet table.sql)
  else if c.isEmpty then .refuse (.missingCriteria "UPDATE")
  else
    let assignments ← Traced.checked (r.entries.mapM assignment)
    let condition ← Clause.assemble settings (← .checked c.clauses)
    return (.text "UPDATE " ++ .identifier table ++ .text " SET " ++ .joined ", " assignments ++
      .text " " ++ condition : Template).statement

end Record

def Criteria.deleteStatement (settings : Settings) (table : String) (c : Criteria) :
    Traced Statement := do
  let table ← Traced.checked (Identifier.parse table)
  if c.isEmpty then .refuse (.missingCriteria "DELETE")
  else
    let condition ← Clause.assemble settings (← .checked c.clauses)
    return (.text "DELETE FROM " ++ .identifier table ++ .text " " ++ condition :
      Template).statement

end TableAccess
