import TableAccess.Column.Cell
import TableAccess.Proofs.KeyedEntries
import TableAccess.Proofs.Outcome
import TableAccess.Proofs.Related

/-!
# Histories of records

A record is made by steps, and the log of the steps says which columns have been set and removed.
`Record.Follows` is the law of a record and its log: a column has the value that it was given last,
unless it has been removed since, and the columns stand in the order in which they came to stay.
Every step keeps the law, so every record that is made by steps follows its log.
-/

namespace TableAccess

/-- What happens to a column of a record. -/
inductive Change where
  | set (column : String) (v : Value)
  | remove (column : String)

namespace Change

def column : Change → String
  | set column _ | remove column => column

/-- Setting the column of a pair to its value. -/
def ofPair (pair : String × Value) : Change :=
  set pair.1 pair.2

/-- The column is given the value, and nothing happens to it afterwards. -/
def LastSet (log : List Change) (column : String) (v : Value) : Prop :=
  ∃ before after, log = before ++ .set column v :: after ∧ ∀ c ∈ after, c.column ≠ column

/-- The change with the given number sets a column that is absent, and the column is not removed
afterwards. -/
def EntersAt (log : List Change) (column : String) (moment : Nat) : Prop :=
  ∃ before v after, log = before ++ .set column v :: after ∧ before.length = moment ∧
    (∀ w, ¬LastSet before column w) ∧ .remove column ∉ after

end Change

namespace Record

/-- What is done with a record. The last three steps put a new one in its place. -/
inductive Step where
  | insert (column : String) (v : Value)
  | remove (column : String)
  | collect (pairs : List (String × Value))
  | nulls (columns : List String)
  | row (columns : List Column) (cells : List Cell)

/-- The name of a column and the value of its cell, which is the cell of the given number. -/
def decodedCell : (Column × Cell) × Nat → Except Error (String × Value)
  | ((column, cell), index) => (Value.ofCell index column cell).map fun v => (column.name, v)

/-- The columns of a row with the values of their cells. -/
def decoded (columns : List Column) (cells : List Cell) : Except Error (List (String × Value)) :=
  (columns.zip cells).zipIdx.mapM decodedCell

namespace Step

/-- What the step makes of a record. -/
def perform (r : Record) : Step → Except Error Record
  | insert column v => .ok (r.insert column v)
  | remove column => .ok (r.remove column).2
  | collect pairs => .ok (ofList pairs)
  | nulls columns => .ok (Record.nulls columns)
  | row columns cells => ofCells columns cells

/-- The log of a record behind the step. -/
def log (changes : List Change) : Step → Except Error (List Change)
  | insert column v => .ok (changes ++ [.set column v])
  | remove column => .ok (changes ++ [.remove column])
  | collect pairs => .ok (pairs.map .ofPair)
  | nulls columns => .ok (columns.map fun column => .set column .null)
  | row columns cells => (decoded columns cells).map fun pairs => pairs.map .ofPair

end Step

/-- The record that steps make of an empty one. -/
def made (steps : List Step) : Except Error Record :=
  steps.foldlM Step.perform empty

/-- The log of the record that steps make. -/
def logOf (steps : List Step) : Except Error (List Change) :=
  steps.foldlM Step.log []

/-- The law of a record and its log. -/
structure Follows (r : Record) (log : List Change) : Prop where
  distinct : r.columns.Nodup
  values : ∀ column v, r.get? column = some v ↔ Change.LastSet log column v
  order : ∃ moment : String → Nat,
    (∀ column ∈ r.columns, Change.EntersAt log column (moment column)) ∧
      r.columns.Pairwise fun c d => moment c < moment d

end Record

namespace Change

variable {log : List Change} {column : String}

lemma lastSet_concat {change : Change} {v : Value} :
    LastSet (log ++ [change]) column v ↔
      change = .set column v ∨ change.column ≠ column ∧ LastSet log column v := by
  constructor
  · rintro ⟨before, after, hlog, hafter⟩
    rcases List.eq_nil_or_concat' after with rfl | ⟨after, last, rfl⟩
    · obtain ⟨-, hchange⟩ := List.append_inj' hlog rfl
      exact .inl (List.singleton_inj.mp hchange)
    · rw [← List.cons_append, ← List.append_assoc] at hlog
      obtain ⟨rfl, hchange⟩ := List.append_inj' hlog rfl
      rw [List.singleton_inj.mp hchange]
      exact .inr ⟨hafter last (by simp), before, after, rfl, fun c hc => hafter c (by simp [hc])⟩
  · rintro (rfl | ⟨hchange, before, after, rfl, hafter⟩)
    · exact ⟨log, [], rfl, by simp⟩
    · refine ⟨before, after ++ [change], by simp, ?_⟩
      intro c hc
      rcases List.mem_append.mp hc with hc | hc
      · exact hafter c hc
      · rwa [List.mem_singleton.mp hc]

lemma lastSet_map_ofPair {pairs : List (String × Value)} {v : Value} :
    LastSet (pairs.map ofPair) column v ↔
      ∃ before after, pairs = before ++ (column, v) :: after ∧ column ∉ after.map Prod.fst := by
  constructor
  · rintro ⟨before, after, hlog, hafter⟩
    obtain ⟨front, rest, rfl, rfl, hrest⟩ := List.map_eq_append_iff.mp hlog
    obtain ⟨pair, back, rfl, hpair, rfl⟩ := List.map_eq_cons_iff.mp hrest
    obtain ⟨rfl, rfl⟩ : pair.1 = column ∧ pair.2 = v := by simpa [ofPair] using hpair
    refine ⟨front, back, rfl, ?_⟩
    intro hmem
    obtain ⟨other, hother, hname⟩ := List.mem_map.mp hmem
    exact hafter (ofPair other) (List.mem_map_of_mem hother) hname
  · rintro ⟨before, after, rfl, hafter⟩
    refine ⟨before.map ofPair, after.map ofPair, by simp [ofPair], ?_⟩
    intro c hc hname
    obtain ⟨other, hother, rfl⟩ := List.mem_map.mp hc
    exact hafter (List.mem_map.mpr ⟨other, hother, hname⟩)

lemma EntersAt.lt_length {moment : Nat} (h : EntersAt log column moment) :
    moment < log.length := by
  obtain ⟨before, v, after, rfl, rfl, -⟩ := h
  simp

lemma EntersAt.concat {moment : Nat} (h : EntersAt log column moment) {change : Change}
    (hchange : change ≠ .remove column) : EntersAt (log ++ [change]) column moment := by
  obtain ⟨before, v, after, rfl, hmoment, habsent, hafter⟩ := h
  refine ⟨before, v, after ++ [change], by simp, hmoment, habsent, ?_⟩
  simp [hafter, hchange.symm]

end Change

namespace Record

open Change

variable {r : Record} {log : List Change}

lemma get?_eq_none_iff {column : String} : r.get? column = none ↔ column ∉ r.columns :=
  Entries.get?_eq_none_iff

lemma columns_remove (r : Record) (column : String) :
    (r.remove column).2.columns = r.columns.erase column :=
  Entries.keys_remove r.entries column

lemma get?_remove (h : r.columns.Nodup) (column other : String) :
    (r.remove column).2.get? other = if other = column then none else r.get? other :=
  Entries.get?_remove h column other

lemma get?_insert (r : Record) (column : String) (v : Value) (other : String) :
    (r.insert column v).get? other = if other = column then some v else r.get? other :=
  Entries.get?_set r.entries column v other

lemma follows_empty : empty.Follows [] := by
  refine ⟨List.nodup_nil, ?_, fun _ => 0, by simp [empty, columns, Entries.keys], ?_⟩
  · intro column v
    simp [empty, get?, Entries.get?, LastSet]
  · exact List.Pairwise.nil

namespace Follows

lemma not_lastSet (h : r.Follows log) {column : String} (hcolumn : column ∉ r.columns) (v : Value) :
    ¬LastSet log column v := by
  rw [← h.values, get?_eq_none_iff.mpr hcolumn]
  simp

/-- Setting a column that is there leaves every column where it is; a new one comes last. -/
theorem insert (h : r.Follows log) (column : String) (v : Value) :
    (r.insert column v).Follows (log ++ [.set column v]) := by
  obtain ⟨moment, hmoment, horder⟩ := h.order
  refine ⟨Entries.keys_set_nodup h.distinct column v, ?_, ?_⟩
  · intro other w
    rw [get?_insert, lastSet_concat, ← h.values]
    by_cases hother : other = column
    · simp [hother, Change.column]
    · simp [hother, Ne.symm hother, Change.column, eq_comm]
  · have hkept : ∀ other ∈ r.columns,
        EntersAt (log ++ [.set column v]) other (moment other) := by
      intro other hother
      exact (hmoment other hother).concat (by simp)
    rw [columns_insert]
    split_ifs with hcolumn
    · exact ⟨moment, hkept, horder⟩
    · have hself : Function.update moment column log.length column = log.length :=
        Function.update_self ..
      have hothers : ∀ other ∈ r.columns,
          Function.update moment column log.length other = moment other := by
        intro other hother
        exact Function.update_of_ne (ne_of_mem_of_not_mem hother hcolumn) _ _
      refine ⟨Function.update moment column log.length, ?_, ?_⟩
      · intro other hother
        rcases List.mem_append.mp hother with hother | hother
        · rw [hothers other hother]
          exact hkept other hother
        · rw [List.mem_singleton.mp hother, hself]
          exact ⟨log, v, [], rfl, rfl, h.not_lastSet hcolumn, by simp⟩
      · rw [List.pairwise_append]
        refine ⟨horder.imp_of_mem ?_, List.pairwise_singleton _ _, ?_⟩
        · intro c d hc hd hcd
          rwa [hothers c hc, hothers d hd]
        · intro c hc d hd
          rw [List.mem_singleton.mp hd, hself, hothers c hc]
          exact (hmoment c hc).lt_length

/-- Removing a column leaves the others in their order. -/
theorem remove (h : r.Follows log) (column : String) :
    (r.remove column).2.Follows (log ++ [.remove column]) := by
  obtain ⟨moment, hmoment, horder⟩ := h.order
  have hsublist : (r.remove column).2.columns.Sublist r.columns := by
    rw [columns_remove]
    exact List.erase_sublist
  refine ⟨hsublist.nodup h.distinct, ?_, moment, ?_, horder.sublist hsublist⟩
  · intro other w
    rw [get?_remove h.distinct, lastSet_concat, ← h.values]
    by_cases hother : other = column
    · simp [hother, Change.column]
    · simp [hother, Ne.symm hother, Change.column]
  · intro other hother
    refine (hmoment other (hsublist.subset hother)).concat ?_
    rintro ⟨rfl⟩
    rw [columns_remove] at hother
    exact h.distinct.not_mem_erase hother

/-- Pairs are set one after the other. -/
theorem setAll {entries : Entries Value} (h : Follows ⟨entries⟩ log)
    (pairs : List (String × Value)) :
    Follows ⟨entries.setAll pairs⟩ (log ++ pairs.map .ofPair) := by
  induction pairs generalizing entries log with
  | nil => simpa [Entries.setAll] using h
  | cons pair pairs ih =>
    obtain ⟨column, v⟩ := pair
    have hset : Follows ⟨entries.set column v⟩ (log ++ [.set column v]) := h.insert column v
    have hall := ih hset
    rw [List.append_assoc] at hall
    exact hall

end Follows

lemma follows_ofList (pairs : List (String × Value)) :
    (ofList pairs).Follows (pairs.map .ofPair) :=
  Follows.setAll follows_empty pairs

lemma readCells_eq (index : Nat) (r : Record) (cells : List (Column × Cell)) :
    readCells index r cells =
      ((cells.zipIdx index).mapM decodedCell).map fun pairs => ⟨r.entries.setAll pairs⟩ := by
  induction cells generalizing index r with
  | nil => rfl
  | cons entry cells ih =>
    obtain ⟨column, cell⟩ := entry
    rw [readCells, List.zipIdx_cons, List.mapM_cons, decodedCell]
    cases Value.ofCell index column cell with
    | error e => rfl
    | ok v =>
      rw [ok_bind, ih, map_ok, ok_bind]
      cases (cells.zipIdx (index + 1)).mapM decodedCell <;> rfl

/-- The record of a row is that of its decoded pairs. -/
theorem ofCells_eq (columns : List Column) (cells : List Cell) :
    ofCells columns cells = (decoded columns cells).map ofList :=
  readCells_eq 0 empty (columns.zip cells)

/-- Each step keeps the law. It only fails if the cells of a row cannot be read. -/
theorem Follows.perform (h : r.Follows log) (step : Step) :
    Related Follows (step.perform r) (step.log log) := by
  cases step with
  | insert column v => exact .ok (h.insert column v)
  | remove column => exact .ok (h.remove column)
  | collect pairs => exact .ok (follows_ofList pairs)
  | nulls columns =>
    have hpairs := follows_ofList (columns.map fun column => (column, .null))
    rw [List.map_map] at hpairs
    exact .ok hpairs
  | row columns cells =>
    rw [Step.perform, ofCells_eq, Step.log]
    refine (Related.same (decoded columns cells)).map ?_
    rintro pairs _ rfl
    exact follows_ofList pairs

/-- Hence the steps of a whole history keep it. -/
theorem Follows.performAll (h : r.Follows log) (steps : List Step) :
    Related Follows (steps.foldlM Step.perform r) (steps.foldlM Step.log log) := by
  induction steps generalizing r log with
  | nil => exact .ok h
  | cons step steps ih =>
    rw [List.foldlM_cons, List.foldlM_cons]
    exact (h.perform step).bind fun _ _ => ih

/-- A column that is repeated in the pairs has its last value. -/
lemma get?_ofList_eq_some_iff {pairs : List (String × Value)} {column : String} {v : Value} :
    (ofList pairs).get? column = some v ↔
      ∃ before after, pairs = before ++ (column, v) :: after ∧ column ∉ after.map Prod.fst := by
  rw [(follows_ofList pairs).values, lastSet_map_ofPair]

lemma size_eq_length_columns (r : Record) : r.size = r.columns.length := by
  rw [size, columns, Entries.keys, List.length_map]

lemma columns_insert_of_mem {column : String} (h : column ∈ r.columns) (v : Value) :
    (r.insert column v).columns = r.columns := by
  rw [columns_insert, if_pos h]

/-- Whatever steps make a record, its columns are different. A column has the value of the last
insertion that no removal follows, and the columns stand in the order in which each was inserted
first since it was last absent. Removing a column gives its value back and leaves all else as it
is. Pairs make a record of their different columns in the order of first occurrence, each with its
last value. -/
theorem keeps_insertion_order (steps : List Step) :
    Related Follows (made steps) (logOf steps) ∧
    (∀ r, made steps = .ok r →
      r.size = r.columns.length ∧
      (∀ column, (r.contains column = true ↔ ∃ v, r.get? column = some v) ∧
        (r.contains column = true ↔ column ∈ r.columns)) ∧
      (∀ column, (r.remove column).1 = r.get? column ∧
        (r.remove column).2.columns = r.columns.filter (· != column) ∧
        ∀ other, (r.remove column).2.get? other =
          if other = column then none else r.get? other) ∧
      ∀ column v, column ∈ r.columns → (r.insert column v).columns = r.columns) ∧
    ∀ pairs : List (String × Value),
      (ofList pairs).columns = (pairs.map Prod.fst).eraseDups ∧
      (ofList pairs).size = (pairs.map Prod.fst).eraseDups.length ∧
      ∀ column v, (ofList pairs).get? column = some v ↔
        ∃ before after, pairs = before ++ (column, v) :: after ∧ column ∉ after.map Prod.fst := by
  have hsteps : Related Follows (made steps) (logOf steps) := follows_empty.performAll steps
  refine ⟨hsteps, ?_, ?_⟩
  · intro r hr
    rw [hr] at hsteps
    obtain ⟨log, -, hfollows⟩ := hsteps.exists_of_ok
    refine ⟨r.size_eq_length_columns, ?_, ?_, fun _ v hcolumn => columns_insert_of_mem hcolumn v⟩
    · exact fun column => ⟨Option.isSome_iff_exists, r.contains_iff column⟩
    · intro column
      refine ⟨Entries.fst_remove r.entries column, ?_, get?_remove hfollows.distinct column⟩
      rw [columns_remove, hfollows.distinct.erase_eq_filter]
  · intro pairs
    have hcolumns : (ofList pairs).columns = (pairs.map Prod.fst).eraseDups :=
      Entries.keys_ofList pairs
    exact ⟨hcolumns, by rw [size_eq_length_columns, hcolumns], fun _ _ => get?_ofList_eq_some_iff⟩

/-- A joined row names a column twice. The column is removed and comes back as the last one. -/
theorem keeps_insertion_order_rejoined :
    let columns : List Column := [⟨"id", .int4⟩, ⟨"name", .text⟩, ⟨"id", .int4⟩]
    let steps : List Step := [.row columns [some [0, 0, 0, 1], none, some [0, 0, 0, 2]],
      .insert "name" (.bool true), .remove "id", .insert "id" (.int 3)]
    let r : Record := ⟨[("name", .bool true), ("id", .int 3)]⟩
    made steps = .ok r ∧ "id" ∈ r.columns ∧ (r.insert "id" .null).columns = ["name", "id"] ∧
      (∃ log, logOf steps = .ok log ∧ r.Follows log) ∧ (r.remove "name").2.columns = ["id"] := by
  intro columns steps r
  have hmade : made steps = .ok r := by rfl
  have hmem : "id" ∈ r.columns := by decide
  obtain ⟨hfollows, hlaws, -⟩ := keeps_insertion_order steps
  obtain ⟨-, -, hremove, hinsert⟩ := hlaws r hmade
  rw [hmade] at hfollows
  exact ⟨hmade, hmem, hinsert "id" .null hmem, hfollows.exists_of_ok, (hremove "name").2.1⟩

end Record
end TableAccess
