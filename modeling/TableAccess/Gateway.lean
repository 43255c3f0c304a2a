import TableAccess.Exchange
import TableAccess.Statement.Write

/-!
# Calls of the gateway

Reads and writes of any table by name. Each call makes one statement and settles with its reply;
updates and deletions without criteria send nothing.
-/

namespace TableAccess

/-- The result of a read in the shape that the query asks for. -/
inductive Query.Result where
  | rows (rows : List Record)
  | single (row : Option Record)

namespace Query.Result

def ofRows (shape : Query.Shape) (rows : List Record) : Query.Result :=
  match shape with
  | .all => .rows rows
  | .single => .single rows.head?

def toList : Query.Result → List Record
  | rows all => all
  | single row => row.toList

def first? (r : Query.Result) : Option Record :=
  r.toList.head?

def size (r : Query.Result) : Nat :=
  r.toList.length

end Query.Result

namespace Gateway

/-- The first column of the first row. -/
def firstCell (rows : List Record) : Option Value :=
  rows.head?.bind Record.first?

def read (settings : Settings) (q : Query) : Call Query.Result :=
  .fetching (q.statement settings) fun rows => .ok (.ofRows q.shape rows)

/-- Reads an expression of the first row that meets criteria. -/
def lookup (settings : Settings) (expression table : String) (c : Criteria) :
    Call (Option Value) :=
  .fetching (c.lookup settings expression table) fun rows => .ok (firstCell rows)

def countOf (rows : List Record) : Except Error Int64 :=
  match (firstCell rows).bind Value.int? with
  | some n => .ok n
  | none => .error (.decode "count" "COUNT(*) returned no integer")

def count (settings : Settings) (table : String) (c : Criteria) : Call Int64 :=
  .fetching (c.count settings table) countOf

/-- Inserts a record and tells whether exactly one row was written. -/
def insert (settings : Settings) (table : String) (r : Record) (identifier : Option String) :
    Call Bool :=
  .executing (r.insertStatement settings table identifier) fun n => .ok (n == 1)

/-- Inserts a record and reads the identifier of the new row. -/
def insertReturning (settings : Settings) (table : String) (r : Record) (identifier : String) :
    Call (Option Value) :=
  .fetching (r.insertReturning settings table identifier) fun rows => .ok (firstCell rows)

/-- Skips a write without criteria. -/
def skipped (verb table : String) : Call Bool :=
  .settled ⟨[.writeSkipped verb table], .ok false⟩

/-- Updates the rows that meet criteria and tells whether there were any. -/
def update (settings : Settings) (table : String) (r : Record) (c : Criteria) : Call Bool :=
  if c.isEmpty then skipped "UPDATE" table
  else .executing (r.updateStatement settings table c) fun n => .ok (0 < n)

/-- Deletes the rows that meet criteria and tells whether there were any. -/
def delete (settings : Settings) (table : String) (c : Criteria) : Call Bool :=
  if c.isEmpty then skipped "DELETE" table
  else .executing (c.deleteStatement settings table) fun n => .ok (0 < n)

def columnName (table : Identifier) (row : Record) : Except Error String :=
  match (row.get? "column_name").bind Value.text? with
  | some name => .ok name
  | none => .error (.schema table.sql "catalog row without column_name")

/-- The column names in the rows of the catalog; a table has one at least. -/
def columnNamesOf (table : Identifier) (rows : List Record) : Except Error (List String) := do
  let names ← rows.mapM (columnName table)
  if names.isEmpty then throw (.schema table.sql "table does not exist or has no columns")
  else return names

/-- Looks the columns of a table up, whose failure for any reason is one of the schema. -/
def schemaLookup {α : Type} (table : String) (finish : List String → α) : Call α :=
  match Identifier.parse table with
  | .error cause => .settled (.refuse cause)
  | .ok table =>
    ⟨[], .fetch table.columnsStatement fun reply =>
      match reply with
      | .ok rows => (columnNamesOf table rows).map finish
      | .error e => .error (.schema table.sql e.message)⟩

def columnNames (table : String) : Call (List String) :=
  schemaLookup table id

/-- The record of a table in which every column is NULL. -/
def defaults (table : String) : Call Record :=
  schemaLookup table Record.nulls

/-- Fetches rows with a statement of the caller. -/
def fetch (statement : Statement) : Call (List Record) :=
  ⟨[], .fetch statement id⟩

def execute (statement : Statement) : Call Nat :=
  ⟨[], .execute statement id⟩

end Gateway
end TableAccess
