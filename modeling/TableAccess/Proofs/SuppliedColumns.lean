import TableAccess.Proofs.IdentifierGrammar
import TableAccess.Proofs.RecordStatements

/-!
# Columns under several spellings

PostgreSQL folds a name without quotes to lower case and takes a quoted name as it is, so one
column has many spellings. `Identifier.SameColumn` compares columns, whereas a record only knows
texts. An insertion therefore names each column once unless the record has the identifier column
under another spelling: the column is then generated a second time.
-/

namespace TableAccess
namespace Identifier

/-- The name that PostgreSQL looks up for a part. -/
def Part.folded : Part → List Char
  | .plain name => Text.lower name.toList
  | .quoted name => name.toList

def folded (i : Identifier) : List (List Char) :=
  i.parts.map Part.folded

/-- Two texts are spellings of the same column. -/
def SameColumn (s t : String) : Prop :=
  ∃ i j, parse s = .ok i ∧ parse t = .ok j ∧ i.folded = j.folded

/-- No two of the texts are spellings of the same column. -/
def Different (columns : List String) : Prop :=
  columns.Pairwise fun s t => ¬SameColumn s t

instance (s t : String) : Decidable (SameColumn s t) :=
  match hs : parse s, ht : parse t with
  | .ok i, .ok j => decidable_of_iff (i.folded = j.folded) (by simp [SameColumn, hs, ht])
  | .error _, _ => isFalse (by simp [SameColumn, hs])
  | _, .error _ => isFalse (by simp [SameColumn, ht])

instance (columns : List String) : Decidable (Different columns) :=
  inferInstanceAs (Decidable (columns.Pairwise _))

example : SameColumn "t.ID" "T.\"id\"" ∧ ¬SameColumn "id" "\"ID\"" := by decide +kernel

lemma different_append_iff {columns : List String} (h : Different columns)
    (added : Option String) :
    Different (columns ++ added.toList) ↔ ∀ s ∈ columns, ∀ t ∈ added, ¬SameColumn s t := by
  have hadded : Different added.toList := by
    cases added with
    | none => exact .nil
    | some t => exact List.pairwise_singleton _ t
  simp only [Different, List.pairwise_append, Option.mem_toList]
  exact ⟨fun happend => happend.2.2, fun hacross => ⟨h, hadded, hacross⟩⟩

lemma sql_of_mapM_parse {columns : List String} {names : List Identifier}
    (h : columns.mapM parse = .ok names) : names.map sql = columns := by
  have hpairs := mapM_eq_ok_iff.mp h
  clear h
  induction hpairs with
  | nil => rfl
  | cons hname _ ih => rw [List.map_cons, ih, (parse_eq_ok_iff.mp hname).2]

end Identifier

open Identifier

/-- The text begins as an insertion with these columns, of which it has a list unless there are
none. -/
def Statement.ListsColumns (st : Statement) (table : String) (columns : List String) : Prop :=
  if columns = [] then st.sql = "INSERT INTO " ++ table ++ " DEFAULT VALUES"
  else ∃ rest, st.sql =
    "INSERT INTO " ++ table ++ " (" ++ ", ".intercalate columns ++ ") VALUES (" ++ rest

namespace Record

variable {settings : Settings} {table : String} {r : Record} {identifier : Option String}

/-- The identifier column of an insertion if its text is new to the record. -/
def addedColumn (r : Record) (identifier : Option String) : Option String :=
  identifier.filter (· ∉ r.columns)

def insertedColumns (r : Record) (identifier : Option String) : List String :=
  r.columns ++ (r.addedColumn identifier).toList

/-- The record has the identifier column under some spelling. -/
def Supplies (r : Record) (identifier : Option String) : Prop :=
  ∃ column ∈ identifier, ∃ other ∈ r.columns, SameColumn other column

/-- The record has the identifier column, but under other spellings only. -/
def Overlooks (r : Record) (identifier : Option String) : Prop :=
  ∃ column ∈ identifier, column ∉ r.columns ∧ ∃ other ∈ r.columns, SameColumn other column

lemma mem_addedColumn_iff {column : String} :
    column ∈ r.addedColumn identifier ↔ column ∈ identifier ∧ column ∉ r.columns := by
  rw [addedColumn, Option.mem_filter_iff, decide_eq_true_iff]

lemma different_insertedColumns_iff (h : Different r.columns) (identifier : Option String) :
    Different (r.insertedColumns identifier) ↔ ¬r.Overlooks identifier := by
  rw [insertedColumns, different_append_iff h]
  constructor
  · rintro hacross ⟨column, hcolumn, hmissing, other, hother, hsame⟩
    exact hacross other hother column (mem_addedColumn_iff.mpr ⟨hcolumn, hmissing⟩) hsame
  · intro hseen other hother column hadded hsame
    obtain ⟨hcolumn, hmissing⟩ := mem_addedColumn_iff.mp hadded
    exact hseen ⟨column, hcolumn, hmissing, other, hother, hsame⟩

/-- Nothing is generated for a column that the record has with the same spelling. -/
lemma insertedColumns_of_supplies (hsupplies : r.Supplies identifier)
    (h : ¬r.Overlooks identifier) : r.insertedColumns identifier = r.columns := by
  obtain ⟨column, hcolumn, other, hother, hsame⟩ := hsupplies
  have hnone : r.addedColumn identifier = none := by
    rw [Option.eq_none_iff_forall_not_mem]
    intro added hadded
    obtain ⟨hidentifier, hmissing⟩ := mem_addedColumn_iff.mp hadded
    rw [Option.mem_unique hidentifier hcolumn] at hmissing
    exact h ⟨column, hcolumn, hmissing, other, hother, hsame⟩
  rw [insertedColumns, hnone, Option.toList_none, List.append_nil]

lemma Generates.sql_eq_addedColumn {generated : Option Generated}
    (h : r.Generates settings identifier generated) :
    generated.map (fun g => g.1.sql) = r.addedColumn identifier := by
  obtain ⟨hsome, hmade⟩ := h
  cases generated with
  | none =>
    symm
    rw [Option.map_none, Option.eq_none_iff_forall_not_mem]
    intro added hadded
    simpa using hsome.mpr ⟨added, mem_addedColumn_iff.mp hadded⟩
  | some g =>
    obtain ⟨column, hcolumn, hmissing⟩ := hsome.mp rfl
    have hname := (parse_eq_ok_iff.mp (hmade g rfl column hcolumn).1).2
    rw [Option.map_some, hname]
    exact (mem_addedColumn_iff.mpr ⟨hcolumn, hmissing⟩).symm

lemma listsColumns_of_insertStatement {st : Statement}
    (h : (r.insertStatement settings table identifier).outcome = .ok st) :
    st.ListsColumns table (r.insertedColumns identifier) := by
  obtain ⟨i, names, generated, hi, hnames, hgenerated, rfl⟩ := insertStatement_iff.mp h
  have htable : i.sql = table := (parse_eq_ok_iff.mp hi).2
  have hcolumns : names.map Identifier.sql ++ generated.toList.map (fun g => g.1.sql) =
      r.insertedColumns identifier := by
    rw [sql_of_mapM_parse hnames, insertedColumns, ← hgenerated.sql_eq_addedColumn]
    cases generated <;> rfl
  rw [Statement.ListsColumns, insertionText, hcolumns, htable]
  split_ifs
  · rfl
  · exact ⟨_, String.append_assoc⟩

lemma listsColumns_of_insertReturning {column : String} {st : Statement}
    (h : (r.insertReturning settings table column).outcome = .ok st) :
    st.ListsColumns table (r.insertedColumns (some column)) := by
  obtain ⟨i, insert, -, hinsert, rfl⟩ := insertReturning_iff.mp h
  have hne : r.insertedColumns (some column) ≠ [] := by
    intro hnil
    obtain ⟨hcolumns, hadded⟩ := List.append_eq_nil_iff.mp hnil
    simp [addedColumn, hcolumns] at hadded
  have hlists := listsColumns_of_insertStatement hinsert
  rw [Statement.ListsColumns, if_neg hne] at hlists ⊢
  obtain ⟨rest, hrest⟩ := hlists
  exact ⟨rest ++ " RETURNING " ++ i.sql, by simp [hrest, String.append_assoc]⟩

end Record

namespace Operation

/-- An insertion of a record, with or without returning the identifier. -/
inductive Inserts (table : String) (r : Record) : Option String → Operation → Prop where
  | plainly (identifier : Option String) : Inserts table r identifier (.insert table r identifier)
  | returning (column : String) : Inserts table r (some column) (.insertReturning table r column)

/-- An insertion of a record of different columns lists them, and then the identifier column if
the record has no such text. The listed columns are different unless the record has the identifier
column under another spelling. A column that the record has is otherwise not generated. -/
theorem insertedColumns_different_iff {settings : Settings} {table : String} {r : Record}
    {identifier : Option String} {o : Operation} (ho : o.Inserts table r identifier)
    (hr : Different r.columns) {st : Statement} (h : (o.statement settings).outcome = .ok st) :
    st.ListsColumns table (r.insertedColumns identifier) ∧
      (Different (r.insertedColumns identifier) ↔ ¬r.Overlooks identifier) ∧
      (r.Supplies identifier → ¬r.Overlooks identifier →
        r.insertedColumns identifier = r.columns) := by
  refine ⟨?_, Record.different_insertedColumns_iff hr identifier,
    Record.insertedColumns_of_supplies⟩
  cases ho with
  | plainly identifier => exact Record.listsColumns_of_insertStatement h
  | returning column => exact Record.listsColumns_of_insertReturning h

/-- The quoted column is another one than the identifier, which the record has as well. -/
theorem insertedColumns_different_iff_quoted :
    let r : Record := ⟨[("\"ID\"", .int 7), ("id", .int 8)]⟩
    Different r.columns ∧ r.Supplies (some "id") ∧ ¬r.Overlooks (some "id") ∧
      ∃ st, (Operation.statement {} (.insertReturning "users" r "id")).outcome = .ok st ∧
        st.sql = "INSERT INTO users (\"ID\", id) VALUES ($1, $2) RETURNING id" ∧
        st.ListsColumns "users" r.columns ∧ Different (r.insertedColumns (some "id")) := by
  intro r
  have hr : Different r.columns := by decide +kernel
  have hsame : SameColumn "id" "id" := by decide +kernel
  have hid : "id" ∈ r.columns := by decide
  have hsupplies : r.Supplies (some "id") := ⟨"id", rfl, "id", hid, hsame⟩
  have hseen : ¬r.Overlooks (some "id") := by
    rintro ⟨column, hcolumn, hmissing, -⟩
    rw [← Option.some.inj hcolumn] at hmissing
    exact hmissing hid
  refine ⟨hr, hsupplies, hseen, exists_statement_of_sql (by decide +kernel) ?_⟩
  intro st hst
  obtain ⟨hlists, hdifferent, hown⟩ := insertedColumns_different_iff (.returning "id") hr hst
  rw [hown hsupplies hseen] at hlists
  exact ⟨hlists, hdifferent.mpr hseen⟩

/-- The record has the identifier, and the database makes another one for the same column. -/
theorem insertStatement_names_column_twice :
    let r : Record := ⟨[("ID", .int 7)]⟩
    Different r.columns ∧ r.Supplies (some "id") ∧
      ∃ st, (r.insertStatement {} "users" (some "id")).outcome = .ok st ∧
        st.sql = "INSERT INTO users (ID, id) VALUES ($1, gen_random_uuid())" ∧
        st.ListsColumns "users" ["ID", "id"] ∧ ¬Different ["ID", "id"] := by
  intro r
  have hsame : SameColumn "ID" "id" := by decide +kernel
  have htwice : ¬Different ["ID", "id"] := by decide +kernel
  refine ⟨by decide +kernel, ⟨"id", rfl, "ID", by decide, hsame⟩,
    exists_statement_of_sql (by decide +kernel) ?_⟩
  intro st hst
  exact ⟨Record.listsColumns_of_insertStatement hst, htwice⟩

end Operation
end TableAccess
