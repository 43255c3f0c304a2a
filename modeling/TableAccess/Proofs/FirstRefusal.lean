import TableAccess.Proofs.Assembly
import TableAccess.Proofs.Operation
import TableAccess.Proofs.Terms
import TableAccess.Proofs.Words

/-!
# What a query is refused for

`Query.items` lists what a caller has written into a query, in the order in which it is checked.
Each item is valid or refused by itself (`Query.Item.IsValid`, `Query.Item.IsRefused`), and
`Query.statement_first_refusal` says that nothing else counts: a query has a statement if all of
its items are valid, and otherwise fails for the first one that is not.
-/

namespace TableAccess

section FirstError

variable {ε α β : Type}

/-- What an outcome fails with. -/
def errorOf? : Except ε α → Option ε
  | .ok _ => none
  | .error e => some e

lemma errorOf?_eq_none_iff {x : Except ε α} : errorOf? x = none ↔ ∃ a, x = .ok a := by
  cases x <;> simp [errorOf?]

lemma errorOf?_eq_some_iff {x : Except ε α} {e : ε} : errorOf? x = some e ↔ x = .error e := by
  cases x <;> simp [errorOf?]

lemma errorOf?_map (f : α → β) (x : Except ε α) : errorOf? (x.map f) = errorOf? x := by
  cases x <;> rfl

lemma errorOf?_mapError {ε' : Type} (f : ε → ε') (x : Except ε α) :
    errorOf? (x.mapError f) = (errorOf? x).map f := by
  cases x <;> rfl

/-- The first of two checks that fails is the one that is heard of. -/
lemma errorOf?_bind {x : Except ε α} {f : α → Except ε β} {d e : Option ε} (hx : errorOf? x = d)
    (hf : ∀ a, errorOf? (f a) = e) : errorOf? (x >>= f) = d.or e := by
  cases x with
  | error cause => exact hx ▸ rfl
  | ok a => exact hx ▸ hf a

theorem errorOf?_mapM (f : α → Except ε β) (xs : List α) :
    errorOf? (xs.mapM f) = xs.findSome? fun x => errorOf? (f x) := by
  induction xs with
  | nil => rfl
  | cons x xs ih =>
    have hrest (b : β) : errorOf? (xs.mapM f >>= fun bs => pure (b :: bs)) =
        (xs.findSome? fun x => errorOf? (f x)).or none :=
      errorOf?_bind ih fun _ => rfl
    rw [List.mapM_cons, errorOf?_bind rfl hrest, Option.or_none, List.findSome?_cons]
    cases errorOf? (f x) <;> rfl

end FirstError

namespace Predicate

/-- The words of operators, in small letters. -/
def reservedWords : List String :=
  ["is", "not", "null", "like", "ilike", "in", "between", "similar", "and", "or"]

/-- The last word of a column is that of an operator, in letters of either case. -/
def EndsInReserved (column : String) (word : List Char) : Prop :=
  Text.IsLastWord column.toList word ∧ String.ofList (Text.lower word) ∈ reservedWords

lemma exists_operatorWord_iff {word : List Char} :
    (∃ w ∈ operatorWords, Text.lower w.toList = Text.lower word) ↔
      String.ofList (Text.lower word) ∈ reservedWords := by
  have hall : reservedWords = operatorWords.map fun w => String.ofList (Text.lower w.toList) := by
    decide
  rw [hall, List.mem_map]
  simp only [String.ofList_inj]

lemma lastWord_of_endsInReserved {column : String} {word : List Char}
    (h : EndsInReserved column word) : lastWord column = word := by
  rw [lastWord, h.1.getLast?_words, Option.getD_some]

lemma endsInOperator_iff {column : String} :
    endsInOperator column = true ↔ ∃ word, EndsInReserved column word := by
  have hany : endsInOperator column = true ↔
      String.ofList (Text.lower (lastWord column)) ∈ reservedWords := by
    rw [endsInOperator, List.any_eq_true, ← exists_operatorWord_iff]
    simp only [beq_iff_eq]
  rw [hany]
  constructor
  · intro h
    cases hlast : (Text.words column.toList).getLast? with
    | none =>
      rw [lastWord, hlast] at h
      exact absurd h (by decide)
    | some word =>
      rw [lastWord, hlast] at h
      exact ⟨word, Text.getLast?_words_iff.mp hlast, h⟩
  · rintro ⟨word, hword⟩
    rw [lastWord_of_endsInReserved hword]
    exact hword.2

end Predicate

/-- What is checked of a query, one thing at a time. -/
inductive Query.Item where
  | expression (s : String)
  | table (s : String)
  | predicate (p : Predicate)
  /-- A limit or an offset and the keyword in front of it. -/
  | paging (clause : String) (n : Option Int64)

namespace Query

namespace Item

/-- An item that stands in the way of no statement. -/
def IsValid : Item → Prop
  | expression s => ∃ f, Fragment.parse s = .ok f
  | table s => ∃ t, TableReference.parse s = .ok t
  | predicate p => (∃ f, Fragment.parse p.column = .ok f) ∧
      (¬∃ word, Predicate.EndsInReserved p.column word) ∧ ¬p.ordersNull
  | paging _ n => ∀ k ∈ n, 0 ≤ k

/-- What an item is refused for. Of a predicate the end of the column is looked at first and the
value last. -/
inductive IsRefused : Item → Refusal → Prop
  | expression {s : String} {cause : Refusal} (h : Fragment.parse s = .error cause) :
    IsRefused (.expression s) cause
  | table {s : String} {cause : Refusal} (h : TableReference.parse s = .error cause) :
    IsRefused (.table s) cause
  | operator {p : Predicate} {word : List Char} (h : Predicate.EndsInReserved p.column word) :
    IsRefused (.predicate p) (.operatorInKey p.column (String.ofList word))
  | column {p : Predicate} {cause : Refusal}
    (hword : ¬∃ word, Predicate.EndsInReserved p.column word)
    (h : Fragment.parse p.column = .error cause) : IsRefused (.predicate p) cause
  | order {p : Predicate} {f : Fragment}
    (hword : ¬∃ word, Predicate.EndsInReserved p.column word)
    (hcolumn : Fragment.parse p.column = .ok f) (h : p.ordersNull) :
    IsRefused (.predicate p) (.orderedNull p.column p.comparison.sql)
  | paging {clause : String} {n : Int64} (h : n < 0) :
    IsRefused (.paging clause (some n)) (.negativePaging clause n.toInt)

/-- The outcome of the check of an item. -/
def refusal? : Item → Option Refusal
  | expression s => errorOf? (Fragment.parse s)
  | table s => errorOf? (TableReference.parse s)
  | predicate p => errorOf? p.term
  | paging clause n => errorOf? (pagingTerm clause n)

theorem refusal?_eq_none_iff {item : Item} : item.refusal? = none ↔ item.IsValid := by
  cases item with
  | expression s => exact errorOf?_eq_none_iff
  | table s => exact errorOf?_eq_none_iff
  | predicate p =>
    rw [refusal?, errorOf?_eq_none_iff, IsValid, ← Predicate.endsInOperator_iff]
    simp only [Predicate.term_eq_ok_iff, Bool.not_eq_true]
    constructor
    · rintro ⟨_, hword, f, hf, hnull, -⟩
      exact ⟨⟨f, hf⟩, hword, hnull⟩
    · rintro ⟨⟨f, hf⟩, hword, hnull⟩
      exact ⟨_, hword, f, hf, hnull, rfl⟩
  | paging clause n =>
    rw [refusal?, errorOf?_eq_none_iff, IsValid]
    simp only [pagingTerm_eq_ok_iff]
    exact ⟨fun ⟨_, hn, _⟩ => hn, fun hn => ⟨_, hn, rfl⟩⟩

lemma comparisonTerm_eq_error {p : Predicate} (h : p.ordersNull) (f : Fragment) :
    p.comparisonTerm f = .error (.orderedNull p.column p.comparison.sql) := by
  obtain ⟨hnull, heq, hne⟩ := h
  rw [Predicate.comparisonTerm, if_pos hnull]
  cases hcomparison : p.comparison <;> simp_all

lemma IsRefused.refusal? {item : Item} {cause : Refusal} (h : item.IsRefused cause) :
    item.refusal? = some cause := by
  cases h with
  | expression h => exact errorOf?_eq_some_iff.mpr h
  | table h => exact errorOf?_eq_some_iff.mpr h
  | @operator p word h =>
    rw [Item.refusal?, errorOf?_eq_some_iff, Predicate.term,
      if_pos (Predicate.endsInOperator_iff.mpr ⟨word, h⟩), Predicate.lastWord_of_endsInReserved h]
  | column hword h =>
    rw [Item.refusal?, errorOf?_eq_some_iff, Predicate.term,
      if_neg (fun hends => hword (Predicate.endsInOperator_iff.mp hends)), h]
    rfl
  | @order p f hword hcolumn h =>
    rw [Item.refusal?, errorOf?_eq_some_iff, Predicate.term,
      if_neg (fun hends => hword (Predicate.endsInOperator_iff.mp hends)), hcolumn]
    exact comparisonTerm_eq_error h f
  | paging h =>
    rw [Item.refusal?, errorOf?_eq_some_iff, pagingTerm, if_pos h]

lemma exists_isRefused {item : Item} (h : ¬item.IsValid) : ∃ cause, item.IsRefused cause := by
  cases item with
  | expression s =>
    cases hs : Fragment.parse s with
    | error cause => exact ⟨cause, .expression hs⟩
    | ok f => exact absurd ⟨f, hs⟩ h
  | table s =>
    cases hs : TableReference.parse s with
    | error cause => exact ⟨cause, .table hs⟩
    | ok t => exact absurd ⟨t, hs⟩ h
  | predicate p =>
    by_cases hword : ∃ word, Predicate.EndsInReserved p.column word
    · obtain ⟨word, hword⟩ := hword
      exact ⟨_, .operator hword⟩
    cases hcolumn : Fragment.parse p.column with
    | error cause => exact ⟨cause, .column hword hcolumn⟩
    | ok f =>
      by_cases hnull : p.ordersNull
      · exact ⟨_, .order hword hcolumn hnull⟩
      · exact absurd ⟨⟨f, hcolumn⟩, hword, hnull⟩ h
  | paging clause n =>
    obtain ⟨k, rfl, hneg⟩ : ∃ k, n = some k ∧ k < 0 := by
      simpa [IsValid, Int64.not_le] using h
    exact ⟨_, .paging hneg⟩

/-- An item is refused for one cause, or for none. -/
theorem refusal?_eq_some_iff {item : Item} {cause : Refusal} :
    item.refusal? = some cause ↔ item.IsRefused cause := by
  refine ⟨?_, IsRefused.refusal?⟩
  intro h
  have hinvalid : ¬item.IsValid := by
    rw [← refusal?_eq_none_iff, h]
    exact Option.some_ne_none cause
  obtain ⟨found, hfound⟩ := exists_isRefused hinvalid
  rw [hfound.refusal?, Option.some.injEq] at h
  exact h ▸ hfound

end Item

end Query

/-- The table of a join is checked before its condition. -/
def Join.items (j : Join) : List Query.Item :=
  [.table j.table, .expression j.condition]

namespace Query

/-- Everything that is checked of a query, in order. -/
def items (q : Query) : List Item :=
  q.columns.map .expression ++ [.table q.table] ++ q.joins.flatMap Join.items ++
    q.filter.map .predicate ++ q.orFilter.map .predicate ++
    q.among.map (fun m => .expression m.column) ++ q.notAmong.map (fun m => .expression m.column) ++
    q.like.map (fun m => .expression m.column) ++ q.orLike.map (fun m => .expression m.column) ++
    q.groupBy.map .expression ++ q.orHaving.map .predicate ++ q.orderBy.map .expression ++
    [.paging "LIMIT" q.limit, .paging "OFFSET" q.offset]

section Clauses

variable {α : Type}

lemma errorOf?_clausesOf {term : α → Except Refusal Template} {item : α → Item}
    (h : ∀ part, errorOf? (term part) = (item part).refusal?) (kind : Clause.Kind)
    (parts : List α) :
    errorOf? (clausesOf kind term parts) = (parts.map item).findSome? Item.refusal? := by
  rw [clausesOf, errorOf?_mapM, List.findSome?_map]
  simp only [errorOf?_map, h]
  rfl

lemma errorOf?_columnClauses (columns : List String) :
    errorOf? (columnClauses columns) = (columns.map .expression).findSome? Item.refusal? := by
  rw [columnClauses]
  split_ifs with hempty
  · rw [List.isEmpty_iff.mp hempty]
    rfl
  · exact errorOf?_clausesOf (fun s => errorOf?_map _ _) .column columns

lemma findSome?_pair (first second : Item) :
    [first, second].findSome? Item.refusal? = first.refusal?.or (second.refusal?.or none) := by
  rw [← List.singleton_append, List.findSome?_append, Option.or_none]
  simp only [List.findSome?_singleton]

lemma errorOf?_member (negated : Bool) (m : MemberList) :
    errorOf? (m.term negated) = (Item.expression m.column).refusal? := by
  have hterm : errorOf? (m.term negated) = (errorOf? (Fragment.parse m.column)).or none := by
    refine errorOf?_bind rfl fun _ => ?_
    split_ifs <;> rfl
  rw [hterm, Option.or_none, Item.refusal?]

lemma errorOf?_textMatch (letterCase : LetterCase) (m : TextMatch) :
    errorOf? (m.term letterCase) = (Item.expression m.column).refusal? := by
  have hterm : errorOf? (m.term letterCase) = (errorOf? (Fragment.parse m.column)).or none :=
    errorOf?_bind rfl fun _ => rfl
  rw [hterm, Option.or_none, Item.refusal?]

lemma errorOf?_join (j : Join) : errorOf? j.term = j.items.findSome? Item.refusal? := by
  rw [Join.items, findSome?_pair]
  refine errorOf?_bind rfl fun _ => ?_
  exact errorOf?_bind rfl fun _ => rfl

lemma errorOf?_joins (joins : List Join) :
    errorOf? (clausesOf .join Join.term joins) =
      (joins.flatMap Join.items).findSome? Item.refusal? := by
  rw [clausesOf, errorOf?_mapM]
  simp only [errorOf?_map, errorOf?_join]
  induction joins with
  | nil => rfl
  | cons j joins ih =>
    rw [List.flatMap_cons, List.findSome?_append, ← ih, List.findSome?_cons]
    cases j.items.findSome? Item.refusal? <;> rfl

lemma errorOf?_paging (limit offset : Option Int64) (front : List Clause) :
    errorOf? (do
        let limit ← pagingTerm "LIMIT" limit
        let offset ← pagingTerm "OFFSET" offset
        return front ++ (limit ++ offset).map (Clause.mk .paging)) =
      [Item.paging "LIMIT" limit, .paging "OFFSET" offset].findSome? Item.refusal? := by
  rw [findSome?_pair]
  refine errorOf?_bind rfl fun _ => ?_
  exact errorOf?_bind rfl fun _ => rfl

/-- The clauses of a query fail for the first item that does. -/
theorem errorOf?_clauses (settings : Settings) (q : Query) :
    errorOf? (q.clauses settings) = q.items.findSome? Item.refusal? := by
  have hexpression (s : String) : errorOf? (expressionTerm s) = (Item.expression s).refusal? :=
    errorOf?_map _ _
  have htable (s : String) : errorOf? (tableTerm s) = (Item.table s).refusal? := errorOf?_map _ _
  have hpredicate (p : Predicate) : errorOf? p.term = (Item.predicate p).refusal? := rfl
  have hlike (m : TextMatch) : errorOf? ((TextMatch.anywhere m.column m.text).term
      settings.letterCase) = (Item.expression m.column).refusal? :=
    errorOf?_textMatch settings.letterCase (.anywhere m.column m.text)
  simp only [items, List.append_assoc, List.findSome?_append]
  refine errorOf?_bind (errorOf?_columnClauses q.columns) fun _ => ?_
  refine errorOf?_bind (errorOf?_clausesOf htable .table [q.table]) fun _ => ?_
  refine errorOf?_bind (errorOf?_joins q.joins) fun _ => ?_
  refine errorOf?_bind (errorOf?_clausesOf hpredicate .filter q.filter) fun _ => ?_
  refine errorOf?_bind (errorOf?_clausesOf hpredicate .orFilter q.orFilter) fun _ => ?_
  refine errorOf?_bind (errorOf?_clausesOf (errorOf?_member false) .among q.among) fun _ => ?_
  refine errorOf?_bind (errorOf?_clausesOf (errorOf?_member true) .notAmong q.notAmong) fun _ => ?_
  refine errorOf?_bind (errorOf?_clausesOf hlike .like q.like) fun _ => ?_
  refine errorOf?_bind (errorOf?_clausesOf (errorOf?_textMatch _) .orLike q.orLike) fun _ => ?_
  refine errorOf?_bind (errorOf?_clausesOf hexpression .group q.groupBy) fun _ => ?_
  refine errorOf?_bind (errorOf?_clausesOf hpredicate .orHaving q.orHaving) fun _ => ?_
  refine errorOf?_bind (errorOf?_clausesOf hexpression .order q.orderBy) fun _ => ?_
  exact errorOf?_paging q.limit q.offset _

end Clauses

variable {settings : Settings}

lemma exists_clause_statement (h : settings.openingOr = .dropped) (cs : List Clause) :
    ∃ st, (Clause.statement settings cs).outcome = .ok st := by
  have hkept : settings.openingOr = .refused →
      Clause.danglingFrom none (Clause.arrange cs) = [] := by simp [h]
  exact ⟨_, Clause.statement_eq_ok_iff.mpr ⟨_, Clause.assemble_eq_ok_iff.mpr ⟨hkept, rfl⟩, rfl⟩⟩

lemma errorOf?_statement (h : settings.openingOr = .dropped) (q : Query) :
    errorOf? (q.statement settings).outcome = (q.items.findSome? Item.refusal?).map .invalid := by
  have hclauses : errorOf? (Traced.checked (q.clauses settings)).outcome =
      (q.items.findSome? Item.refusal?).map .invalid := by
    rw [Traced.checked, errorOf?_mapError, errorOf?_clauses]
  rw [statement, Traced.outcome_bind,
    errorOf?_bind hclauses fun cs => errorOf?_eq_none_iff.mpr (exists_clause_statement h cs),
    Option.or_none]

/-- Where an alternative may open the WHERE clause, a query has a statement if everything in it is
valid. Otherwise it fails for the first thing that is not, whatever stands behind it. -/
theorem statement_first_refusal (h : settings.openingOr = .dropped) (q : Query) :
    ((∃ st, (q.statement settings).outcome = .ok st) ↔ ∀ item ∈ q.items, item.IsValid) ∧
    ∀ e, (q.statement settings).outcome = .error e ↔
      ∃ front item back cause, q.items = front ++ item :: back ∧ (∀ i ∈ front, i.IsValid) ∧
        item.IsRefused cause ∧ e = .invalid cause := by
  refine ⟨?_, fun e => ?_⟩
  · rw [← errorOf?_eq_none_iff, errorOf?_statement h, Option.map_eq_none_iff,
      List.findSome?_eq_none_iff]
    simp only [Item.refusal?_eq_none_iff]
  · rw [← errorOf?_eq_some_iff, errorOf?_statement h, Option.map_eq_some_iff]
    constructor
    · rintro ⟨cause, hfirst, rfl⟩
      obtain ⟨front, item, back, hitems, hitem, hfront⟩ := List.findSome?_eq_some_iff.mp hfirst
      exact ⟨front, item, back, cause, hitems,
        fun i hi => Item.refusal?_eq_none_iff.mp (hfront i hi),
        Item.refusal?_eq_some_iff.mp hitem, rfl⟩
    · rintro ⟨front, item, back, cause, hitems, hfront, hitem, rfl⟩
      exact ⟨cause, List.findSome?_eq_some_iff.mpr ⟨front, item, back, hitems, hitem.refusal?,
        fun i hi => Item.refusal?_eq_none_iff.mpr (hfront i hi)⟩, rfl⟩

/-- A query with three faults, of which the second is in a list without values. -/
def misspelled : Query where
  columns := ["name"]
  table := "users u"
  filter := [⟨"deleted_at", .eq, .null⟩, ⟨"age", .gt, .null⟩]
  among := [⟨"city; --", []⟩]
  limit := some (-1)

/-- NULL may be asked for, but has no place in an order. -/
theorem statement_first_refusal_misspelled :
    ({} : Settings).openingOr = .dropped ∧ (¬∃ st, (misspelled.statement {}).outcome = .ok st) ∧
      (misspelled.statement {}).outcome = .error (.invalid (.orderedNull "age" ">")) := by
  have hdropped : ({} : Settings).openingOr = .dropped := rfl
  obtain ⟨-, hrefused⟩ := statement_first_refusal hdropped misspelled
  have hword {column : String} (h : Predicate.endsInOperator column = false) :
      ¬∃ word, Predicate.EndsInReserved column word := by
    rw [← Predicate.endsInOperator_iff, h]
    decide
  have hage : Item.IsRefused (.predicate ⟨"age", .gt, .null⟩) (.orderedNull "age" ">") :=
    .order (f := ⟨"age"⟩) (hword (by decide +kernel)) (by decide +kernel)
      ⟨rfl, by decide, by decide⟩
  have hfront : ∀ i ∈ [Item.expression "name", .table "users u",
      .predicate ⟨"deleted_at", .eq, .null⟩], i.IsValid := by
    simp only [List.forall_mem_cons, List.not_mem_nil, false_implies, implies_true, and_true]
    refine ⟨⟨⟨"name"⟩, by decide +kernel⟩, ?_, ⟨⟨"deleted_at"⟩, by decide +kernel⟩,
      hword (by decide +kernel), fun h => h.2.1 rfl⟩
    exact ⟨⟨⟨[.plain "users"]⟩, some ⟨[.plain "u"]⟩⟩, by decide +kernel⟩
  have hfault := (hrefused _).mpr ⟨_, _, [.expression "city; --", .paging "LIMIT" (some (-1)),
    .paging "OFFSET" none], _, rfl, hfront, hage, rfl⟩
  refine ⟨hdropped, ?_, hfault⟩
  rintro ⟨st, hst⟩
  rw [hfault] at hst
  cases hst

end Query

end TableAccess
