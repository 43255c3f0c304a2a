import TableAccess.Proofs.GatewayRuns
import TableAccess.Proofs.IdentifierGrammar
import TableAccess.Proofs.KeyedEntries

/-!
# Looking columns up

The columns of a table are known if the catalog answers with rows that all name one, and not at all
otherwise. `Gateway.Settles` says so of a reply and an outcome, and
`Gateway.columnNames_all_or_nothing` proves it of the lookup, whatever the executor replies. The
record of defaults comes from the same lookup.
-/

namespace TableAccess

/-- The statement that reads the columns of any table from the catalog. -/
def catalogText : String :=
  "SELECT a.attname::text AS column_name FROM pg_catalog.pg_attribute a " ++
    "WHERE a.attrelid = to_regclass($1::text) AND a.attnum > 0 AND NOT a.attisdropped " ++
    "ORDER BY a.attnum"

open Template in
lemma Identifier.columnsStatement_eq (i : Identifier) :
    i.columnsStatement = ⟨catalogText, [.text i.sql]⟩ := by
  have hsql : i.columnsStatement.sql = catalogText := by
    rw [columnsStatement, sql_statement, sql_eq_sqlFrom]
    simp only [sqlFrom_append, sqlFrom_text, sqlFrom_slot, params_text]
    decide +kernel
  have hparams : i.columnsStatement.params = [.text i.sql] := by
    rw [columnsStatement, params_statement]
    simp only [params_append, params_text, params_slot, List.nil_append, List.append_nil]
  rw [← hsql, ← hparams]

lemma Identifier.not_spelling_of_refused {s : String} {cause : Refusal}
    (h : parse s = .error cause) (parts : List Part) (pieces : List (List Char)) :
    ¬Spelling s parts pieces := by
  intro hspelling
  have hparse : parse s = .ok ⟨parts⟩ := (spelling_iff.mp hspelling).1
  simp [h] at hparse

/-- A column that is listed repeatedly is one column of the defaults. -/
lemma Record.nulls_eq (columns : List String) :
    nulls columns = ⟨columns.eraseDups.map fun column => (column, .null)⟩ := by
  rw [nulls, ofList, Entries.ofList_constant]

/-- What the executor and the caller see of a call. -/
structure Call.Observed (α : Type) where
  trips : List RoundTrip
  outcome : Except Error α

def Call.observed {σ α : Type} (executor : Executor σ) (state : σ) (call : Call α) :
    Observed α :=
  let (t, _, trips) := call.run executor.recorded (state, [])
  ⟨trips, t.outcome⟩

lemma Value.text?_eq_some_iff {v : Value} {s : String} : v.text? = some s ↔ v = .text s := by
  cases v <;> simp [text?]

namespace Gateway

/-- The row of the catalog names a column. -/
def NamesColumn (row : Record) (name : String) : Prop :=
  row.get? "column_name" = some (.text name)

/-- The catalog has answered with one row at least, and its rows name the columns one by one. -/
def ListsColumns (reply : Except Error (List Record)) (names : List String) : Prop :=
  ∃ rows, reply = .ok rows ∧ rows ≠ [] ∧ List.Forall₂ NamesColumn rows names

/-- What becomes of a reply of the catalog: all the columns that it lists, or an error of the
schema. -/
structure Settles (table : String) (reply : Except Error (List Record))
    (outcome : Except Error (List String)) : Prop where
  listed : ∀ names, outcome = .ok names ↔ ListsColumns reply names
  /-- Every other reply is an error. -/
  unlisted : (∀ names, ¬ListsColumns reply names) →
    ∃ reason, outcome = .error (.schema table reason)
  failed : ∀ e, reply = .error e → outcome = .error (.schema table e.message)
  empty : reply = .ok [] →
    outcome = .error (.schema table "table does not exist or has no columns")
  /-- One row without a name is enough, wherever it stands. -/
  unnamed : ∀ rows, reply = .ok rows → ∀ row ∈ rows, (∀ name, ¬NamesColumn row name) →
    outcome = .error (.schema table "catalog row without column_name")

variable {i : Identifier} {rows : List Record} {names : List String}

lemma columnName_eq_ok_iff {row : Record} {name : String} :
    columnName i row = .ok name ↔ NamesColumn row name := by
  have hbind : (row.get? "column_name").bind Value.text? = some name ↔ NamesColumn row name := by
    simp [Option.bind_eq_some_iff, Value.text?_eq_some_iff, NamesColumn]
  rw [← hbind, columnName]
  cases (row.get? "column_name").bind Value.text? <;> simp

lemma columnName_eq_error {row : Record} {e : Error} (h : columnName i row = .error e) :
    e = .schema i.sql "catalog row without column_name" := by
  rw [columnName] at h
  split at h
  · cases h
  · exact (Except.error.inj h).symm

lemma columnNamesOf_eq_ok_iff :
    columnNamesOf i rows = .ok names ↔ rows ≠ [] ∧ List.Forall₂ NamesColumn rows names := by
  have hrows : rows.mapM (columnName i) = .ok names ↔ List.Forall₂ NamesColumn rows names := by
    simp only [mapM_eq_ok_iff, columnName_eq_ok_iff]
  have hchecked : columnNamesOf i rows = .ok names ↔
      rows.mapM (columnName i) = .ok names ∧ names ≠ [] := by
    rw [columnNamesOf, bind_eq_ok_iff]
    constructor
    · rintro ⟨found, hfound, hreturned⟩
      split at hreturned
      · cases hreturned
      · next hne =>
        obtain rfl : found = names := Except.ok.inj hreturned
        exact ⟨hfound, by simpa using hne⟩
    · rintro ⟨hfound, hne⟩
      exact ⟨names, hfound, if_neg (by simpa using hne)⟩
  rw [hchecked, hrows, and_comm]
  refine and_congr_left fun h => not_congr ?_
  rw [← List.length_eq_zero_iff, ← List.length_eq_zero_iff, h.length_eq]

lemma columnNamesOf_unnamed {row : Record} (hrow : row ∈ rows)
    (h : ∀ name, ¬NamesColumn row name) :
    columnNamesOf i rows = .error (.schema i.sql "catalog row without column_name") := by
  have hrefused : columnName i row = .error (.schema i.sql "catalog row without column_name") := by
    cases hname : columnName i row with
    | ok name => exact absurd (columnName_eq_ok_iff.mp hname) (h name)
    | error e => rw [columnName_eq_error hname]
  have hall : rows.mapM (columnName i) =
      .error (.schema i.sql "catalog row without column_name") :=
    mapM_eq_error (fun _ _ hname => columnName_eq_error hname) hrow hrefused
  rw [columnNamesOf, hall]
  rfl

lemma exists_names_or_unnamed (rows : List Record) :
    (∃ names, List.Forall₂ NamesColumn rows names) ∨
      ∃ row ∈ rows, ∀ name, ¬NamesColumn row name := by
  induction rows with
  | nil => exact .inl ⟨[], .nil⟩
  | cons row rows ih =>
    by_cases hrow : ∃ name, NamesColumn row name
    · obtain ⟨name, hname⟩ := hrow
      obtain ⟨names, hnames⟩ | ⟨bad, hbad, hunnamed⟩ := ih
      · exact .inl ⟨name :: names, .cons hname hnames⟩
      · exact .inr ⟨bad, List.mem_cons_of_mem _ hbad, hunnamed⟩
    · exact .inr ⟨row, List.mem_cons_self, not_exists.mp hrow⟩

/-- The columns of a table, from the reply of the catalog. -/
def columnsReplied (table : Identifier) : Except Error (List Record) → Except Error (List String)
  | .ok rows => columnNamesOf table rows
  | .error e => .error (.schema table.sql e.message)

theorem settles_columnsReplied (i : Identifier) (reply : Except Error (List Record)) :
    Settles i.sql reply (columnsReplied i reply) where
  listed names := by
    cases reply with
    | error e => simp [columnsReplied, ListsColumns]
    | ok rows => simp [columnsReplied, ListsColumns, columnNamesOf_eq_ok_iff]
  unlisted hnone := by
    cases reply with
    | error e => exact ⟨_, rfl⟩
    | ok rows =>
      rcases eq_or_ne rows [] with rfl | hne
      · exact ⟨_, rfl⟩
      · obtain ⟨names, hnames⟩ | ⟨row, hrow, hunnamed⟩ := exists_names_or_unnamed rows
        · exact absurd ⟨rows, rfl, hne, hnames⟩ (hnone names)
        · exact ⟨_, columnNamesOf_unnamed hrow hunnamed⟩
  failed := by
    rintro e rfl
    rfl
  empty := by
    rintro rfl
    rfl
  unnamed := by
    rintro rows rfl row hrow hunnamed
    exact columnNamesOf_unnamed hrow hunnamed

section Lookup

variable {σ α : Type} {table : String} {executor : Executor σ} {state : σ}

lemma observed_schemaLookup_of_refused {cause : Refusal} (h : Identifier.parse table = .error cause)
    (finish : List String → α) :
    (schemaLookup table finish).observed executor state = ⟨[], .error (.invalid cause)⟩ := by
  rw [schemaLookup, h]
  rfl

/-- An identifier is looked up under its own text, whatever is made of the columns. -/
lemma observed_schemaLookup_of_parsed (h : Identifier.parse table = .ok i)
    (finish : List String → α) :
    let statement : Statement := ⟨catalogText, [.text table]⟩
    let reply := (executor.fetch statement state).1.outcome
    (schemaLookup table finish).observed executor state =
      ⟨[.fetched statement reply], (columnsReplied i reply).map finish⟩ := by
  have hstatement : i.columnsStatement = ⟨catalogText, [.text table]⟩ := by
    rw [i.columnsStatement_eq, (Identifier.parse_eq_ok_iff.mp h).2]
  have hcall : schemaLookup table finish = ⟨[], .fetch ⟨catalogText, [.text table]⟩
      fun reply => (columnsReplied i reply).map finish⟩ := by
    rw [schemaLookup, h]
    simp only [hstatement, Call.mk.injEq, Exchange.fetch.injEq, true_and]
    funext reply
    cases reply <;> rfl
  rw [hcall]
  rfl

end Lookup

/-- The columns of a table are all known or none is. What is not an identifier is not looked up;
an identifier is looked up once, under its own text, and the reply settles the outcome. The
defaults make a record of what the lookup gives. -/
theorem columnNames_all_or_nothing {σ : Type} (executor : Executor σ) (table : String)
    (state : σ) :
    let statement : Statement := ⟨catalogText, [.text table]⟩
    let reply := (executor.fetch statement state).1.outcome
    let seen := (columnNames table).observed executor state
    ((seen.trips = [] ∧ ∃ cause, seen.outcome = .error (.invalid cause)) ↔
        ∀ parts pieces, ¬Identifier.Spelling table parts pieces) ∧
      (∀ parts pieces, Identifier.Spelling table parts pieces →
        seen.trips = [.fetched statement reply] ∧ Settles table reply seen.outcome) ∧
      (defaults table).observed executor state = ⟨seen.trips, seen.outcome.map fun names =>
        ⟨names.eraseDups.map fun name => (name, .null)⟩⟩ := by
  intro statement reply
  rw [columnNames, defaults, funext Record.nulls_eq]
  cases hparse : Identifier.parse table with
  | error cause =>
    have hnone : ∀ parts pieces, ¬Identifier.Spelling table parts pieces :=
      Identifier.not_spelling_of_refused hparse
    rw [observed_schemaLookup_of_refused hparse, observed_schemaLookup_of_refused hparse]
    exact ⟨iff_of_true ⟨rfl, cause, rfl⟩ hnone,
      fun parts pieces hspelling => absurd hspelling (hnone parts pieces), rfl⟩
  | ok i =>
    have hspelled : Identifier.Spelling table i.parts (i.parts.map Identifier.Part.sql) :=
      Identifier.spelling_iff.mpr ⟨hparse, rfl⟩
    have hsettles : Settles table reply (columnsReplied i reply) := by
      have hsql : i.sql = table := (Identifier.parse_eq_ok_iff.mp hparse).2
      exact hsql ▸ settles_columnsReplied i reply
    rw [observed_schemaLookup_of_parsed hparse, observed_schemaLookup_of_parsed hparse,
      Except.map_id]
    refine ⟨iff_of_false ?_ ?_, ?_, rfl⟩
    · rintro ⟨htrips, -⟩
      cases htrips
    · intro hnone
      exact hnone _ _ hspelled
    · intro _ _ _
      exact ⟨rfl, hsettles⟩

/-- A column that the catalog lists twice has one default. -/
theorem columnNames_all_or_nothing_repeated :
    let row (name : String) : Record := ⟨[("column_name", .text name)]⟩
    let script : Script := { rows := [row "id", row "name", row "id"] }
    let seen := (columnNames "users").observed script.executor []
    Identifier.Spelling "users" [.plain "users"] ["users".toList] ∧
      seen.trips = [.fetched ⟨catalogText, [.text "users"]⟩ (.ok script.rows)] ∧
      seen.outcome = .ok ["id", "name", "id"] ∧
      ((defaults "users").observed script.executor []).outcome =
        .ok ⟨[("id", .null), ("name", .null)]⟩ := by
  intro row script seen
  have hspelling : Identifier.Spelling "users" [.plain "users"] ["users".toList] :=
    Identifier.spelling_iff.mpr ⟨by decide +kernel, rfl⟩
  obtain ⟨-, hsent, hdefaults⟩ := columnNames_all_or_nothing script.executor "users" []
  obtain ⟨htrips, hsettles⟩ := hsent _ _ hspelling
  have hlisted : seen.outcome = .ok ["id", "name", "id"] :=
    (hsettles.listed _).mpr ⟨script.rows, rfl, by simp [script],
      .cons rfl (.cons rfl (.cons rfl .nil))⟩
  refine ⟨hspelling, htrips, hlisted, ?_⟩
  rw [hdefaults, hlisted]
  rfl

end Gateway
end TableAccess
