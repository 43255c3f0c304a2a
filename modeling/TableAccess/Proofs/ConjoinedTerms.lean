import Mathlib.Data.Fintype.Order
import Mathlib.Data.List.DropRight
import TableAccess.Proofs.IdentifierGrammar
import TableAccess.Proofs.Junctions
import TableAccess.Proofs.QueryText
import TableAccess.Proofs.Restriction

/-!
# Terms that stay apart

The terms of restrictions stand in the WHERE clause as they are, with an AND between each two. The
column of a restriction is structural text that may hold anything a condition holds, so it may
bring junctions of its own. `Operation.restrictions_conjoined` says what stands before, in and
behind the clause, and that such a column is the only way in which the clause can be cut into
anything but its terms. Whether a term is one operand of SQL is up to its column.
-/

namespace TableAccess

open Reference

/-- The texts of columns that the term of a restriction contains. -/
def Restriction.written : Restriction → List String
  | predicate p => [trimmed p.column]
  | member _ m => if m.values.isEmpty then [] else [trimmed m.column]
  | textMatch m => [trimmed m.column]

/-- Writes the assignments of an update. -/
def Record.assigned (r : Record) : Writing String := do
  let assignments ← r.entries.mapM fun (column, v) => return column ++ " = " ++ (← v.placed)
  return linked (assignments.map (", ", ·))

/-- The parts of a statement whose WHERE clause has no alternatives. -/
structure Conjunction where
  /-- Writes what stands in front of the clause. -/
  front : Writing String
  restrictions : List Restriction
  /-- Writes what stands behind the clause. -/
  rest : Writing String

/-- The parts of the statement of an operation, if its WHERE clause has no alternatives. -/
def Operation.conjunction? : Operation → Option Conjunction
  | select q =>
    if q.orFilter.isEmpty && q.orLike.isEmpty then some ⟨pure q.front, q.restrictions, q.rest⟩
    else none
  | count table c =>
    some ⟨pure ("SELECT COUNT(*) FROM " ++ normalized table), c.restrictions, pure ""⟩
  | lookup expression table c =>
    some ⟨pure ("SELECT " ++ trimmed expression ++ " FROM " ++ normalized table), c.restrictions,
      pure " LIMIT 1"⟩
  | update table r c =>
    some ⟨return "UPDATE " ++ table ++ " SET " ++ (← r.assigned), c.restrictions, pure ""⟩
  | delete table c => some ⟨pure ("DELETE FROM " ++ table), c.restrictions, pure ""⟩
  | insert .. | insertReturning .. => none

namespace Conjunction

/-- The texts of terms, which stand behind the values of the front. -/
def texts (parts : Conjunction) (ts : List Template) : List String :=
  Template.texts (parts.front.run []).2.length ts

/-- The text of the WHERE clause. -/
def chain (parts : Conjunction) (ts : List Template) : String :=
  " AND ".intercalate (parts.texts ts)

/-- The statement of the parts, whose restrictions have the given terms. -/
def statement (parts : Conjunction) (ts : List Template) : Statement :=
  let front := parts.front.run []
  let rest := parts.rest.run (front.2 ++ ts.flatMap Template.params)
  ⟨front.1 ++ " WHERE " ++ parts.chain ts ++ rest.1, rest.2⟩

/-- All restrictions have terms, and the statement is that of the parts with these. -/
def Makes (parts : Conjunction) (letterCase : LetterCase) (st : Statement) : Prop :=
  ∃ ts, parts.restrictions.mapM (Restriction.term letterCase) = .ok ts ∧ st = parts.statement ts

end Conjunction

namespace Condition

/-- A character of no parenthesis and of neither AND nor OR. -/
def isNeutral (c : Char) : Bool :=
  c != '(' && c != ')' && c.toLower != 'd' && c.toLower != 'r'

lemma isNeutral_iff {c : Char} :
    isNeutral c = true ↔ (c ≠ '(' ∧ c ≠ ')') ∧ c.toLower ≠ 'd' ∧ c.toLower ≠ 'r' := by
  simp [isNeutral, and_assoc]

lemma nesting_of_neutral {cs : List Char} (h : cs.all isNeutral = true) : nesting cs = 0 := by
  have hparens : ∀ c ∈ cs, c ≠ '(' ∧ c ≠ ')' :=
    fun c hc => (isNeutral_iff.mp (List.all_eq_true.mp h c hc)).1
  have hopened : cs.count '(' = 0 := List.count_eq_zero.mpr fun hmem => (hparens _ hmem).1 rfl
  have hclosed : cs.count ')' = 0 := List.count_eq_zero.mpr fun hmem => (hparens _ hmem).2 rfl
  rw [nesting, hopened, hclosed]
  rfl

lemma isTail_of_neutral {cs : List Char} (h : cs.all isNeutral = true)
    (hhead : cs.head? = some ' ') (hlast : ∃ c, cs.getLast? = some c ∧ Text.isBlank c = false) :
    IsTail cs :=
  ⟨nesting_of_neutral h, hhead, hlast,
    fun c hc => (isNeutral_iff.mp (List.all_eq_true.mp h c hc)).2⟩

lemma isNeutral_of_isDigit {c : Char} (h : c.isDigit = true) :
    isNeutral c = true ∧ Text.isBlank c = false := by
  have hbounds : 48 ≤ c.toNat ∧ c.toNat ≤ 57 := Char.isDigit_iff_toNat.mp h
  have hall : ∀ n < 58, 48 ≤ n →
      isNeutral (Char.ofNat n) = true ∧ Text.isBlank (Char.ofNat n) = false := by decide
  have hc := hall c.toNat (by omega) hbounds.1
  rwa [Char.ofNat_toNat] at hc

/-- The text of a placeholder. -/
lemma neutral_slot (v : Value) (count : Nat) :
    ((Template.slot v).sqlFrom count).toList.all isNeutral = true ∧
      ∃ c, ((Template.slot v).sqlFrom count).toList.getLast? = some c ∧ Text.isBlank c = false := by
  have hdigits : ∀ c ∈ (toString (count + 1)).toList, c.isDigit = true := by
    intro c hc
    rw [Text.toList_toString] at hc
    exact Text.isDigit_of_mem_decimal hc
  have hne : (toString (count + 1)).toList ≠ [] := by
    rw [Nat.toString_eq_repr, Nat.toList_repr]
    exact Nat.toDigits_ne_nil
  have hall : (toString (count + 1)).toList.all isNeutral = true :=
    List.all_eq_true.mpr fun c hc => (isNeutral_of_isDigit (hdigits c hc)).1
  rw [Template.sqlFrom_slot, String.toList_append]
  constructor
  · rw [List.all_append, hall]
    rfl
  · refine ⟨(toString (count + 1)).toList.getLast hne, ?_, ?_⟩
    · rw [List.getLast?_append_of_ne_nil _ hne, List.getLast?_eq_getLast_of_ne_nil hne]
    · exact (isNeutral_of_isDigit (hdigits _ (List.getLast_mem hne))).2

lemma neutral_slots (vs : List Value) (count : Nat) :
    ((Template.slots vs).sqlFrom count).toList.all isNeutral = true := by
  induction vs generalizing count with
  | nil => rfl
  | cons v vs ih =>
    cases vs with
    | nil => exact (neutral_slot v count).1
    | cons w ws =>
      have hjoined : Template.slots (v :: w :: ws) =
          .slot v ++ .text ", " ++ Template.slots (w :: ws) := rfl
      rw [hjoined]
      simp only [Template.sqlFrom_append, String.toList_append, List.all_append, ih,
        (neutral_slot v count).1, Template.sqlFrom_text]
      rfl

section Tail

open Template

lemma isTail_text {s : String} (hs : s.toList.all isNeutral = true)
    (hhead : s.toList.head? = some ' ')
    (hlast : ∃ c, s.toList.getLast? = some c ∧ Text.isBlank c = false) (count : Nat) :
    IsTail ((text s).sqlFrom count).toList := by
  rw [sqlFrom_text]
  exact isTail_of_neutral hs hhead hlast

lemma isTail_before_slot {s : String} (hs : s.toList.all isNeutral = true)
    (hhead : s.toList.head? = some ' ') (v : Value) (count : Nat) :
    IsTail ((text s ++ slot v).sqlFrom count).toList := by
  obtain ⟨hslot, c, hc, hvisible⟩ := neutral_slot v (count + (text s).params.length)
  rw [sqlFrom_append, sqlFrom_text, String.toList_append]
  refine isTail_of_neutral ?_ ?_ ⟨c, ?_, hvisible⟩
  · rw [List.all_append, hs, hslot]
    rfl
  · rw [List.head?_append, hhead]
    rfl
  · rw [List.getLast?_append, hc]
    rfl

lemma isTail_members (negated : Bool) (vs : List Value) (count : Nat) :
    IsTail ((text (MemberList.operator negated) ++ slots vs ++ text ")").sqlFrom count).toList := by
  have hslots := neutral_slots vs (count + (text (MemberList.operator negated)).params.length)
  have hopened : nesting (MemberList.operator negated).toList = 1 := by cases negated <;> rfl
  have hclosed : nesting ")".toList = -1 := rfl
  have hletters : ((MemberList.operator negated).toList ++ ")".toList).all fun c =>
      c.toLower != 'd' && c.toLower != 'r' := by
    cases negated <;> decide
  rw [sqlFrom_append, sqlFrom_append, sqlFrom_text, sqlFrom_text, String.toList_append,
    String.toList_append]
  refine ⟨?_, ?_, ⟨')', ?_, rfl⟩, ?_⟩
  · rw [nesting_append, nesting_append, hopened, nesting_of_neutral hslots, hclosed]
    rfl
  · cases negated <;> rfl
  · rw [List.getLast?_append]
    rfl
  · intro c hc
    rw [List.append_assoc, List.mem_append, List.mem_append] at hc
    rw [List.all_append, Bool.and_eq_true, List.all_eq_true, List.all_eq_true] at hletters
    rcases hc with hc | hc | hc
    · simpa using hletters.1 c hc
    · exact (isNeutral_iff.mp (List.all_eq_true.mp hslots c hc)).2
    · simpa using hletters.2 c hc

end Tail

lemma visible_head_trim {cs : List Char} (h : Text.trim cs ≠ []) :
    ∃ c, (Text.trim cs).head? = some c ∧ Text.isBlank c = false := by
  obtain ⟨c, rest, hc⟩ := List.exists_cons_of_ne_nil h
  obtain ⟨more, hmore⟩ : Text.trim cs <+: cs.dropWhile Text.isBlank :=
    List.rdropWhile_prefix Text.isBlank _
  have hvisible := List.head?_dropWhile_not Text.isBlank cs
  rw [← hmore, hc] at hvisible
  exact ⟨c, by rw [hc]; rfl, hvisible⟩

/-- The column of a term is visible where it begins and closes the parentheses that it opens. -/
lemma column_begins {s : String} {f : Fragment} (h : Fragment.parse s = .ok f) :
    nesting f.text.toList = 0 ∧
      ∃ c, f.text.toList.head? = some c ∧ Text.isBlank c = false := by
  obtain ⟨rfl, hf⟩ := (Fragment.parse_eq_ok_iff s f).mp h
  rw [String.toList_ofList]
  refine ⟨?_, visible_head_trim hf.nonempty⟩
  rw [nesting, hf.balanced.2]
  omega

end Condition

namespace Restriction

open Condition

/-- A term that begins with its column. -/
lemma stands_of_tail {s : String} {f : Fragment} (h : Fragment.parse s = .ok f) {u : Template}
    {count : Nat} (htail : IsTail (u.sqlFrom count).toList) :
    IsTerm ((.fragment f ++ u : Template).sqlFrom count).toList ∧
      junctions ((.fragment f ++ u : Template).sqlFrom count).toList =
        [trimmed s].flatMap fun t => junctions t.toList := by
  obtain ⟨hnesting, hhead⟩ := column_begins h
  have htext : f.text = trimmed s := by
    rw [((Fragment.parse_eq_ok_iff s f).mp h).1]
    rfl
  have hsql : (.fragment f ++ u : Template).sqlFrom count = f.text ++ u.sqlFrom count := by
    rw [Template.sqlFrom_append, Template.fragment, Template.sqlFrom_text]
    rfl
  rw [hsql, String.toList_append, List.flatMap_singleton, ← htext]
  exact htail.append hnesting hhead

/-- The text of a term stands alone, and its junctions are those of its column. -/
theorem term_stands {letterCase : LetterCase} {r : Restriction} {t : Template}
    (h : r.term letterCase = .ok t) (count : Nat) :
    IsTerm (t.sqlFrom count).toList ∧
      junctions (t.sqlFrom count).toList = r.written.flatMap fun s => junctions s.toList := by
  cases r with
  | predicate p =>
    obtain ⟨-, column, hcolumn, -, rfl⟩ := Predicate.term_eq_ok_iff.mp h
    rw [Predicate.template]
    split_ifs with hnull hcomparison
    · exact stands_of_tail hcolumn (isTail_text rfl rfl ⟨'L', rfl, rfl⟩ count)
    · exact stands_of_tail hcolumn (isTail_text rfl rfl ⟨'L', rfl, rfl⟩ count)
    · have hoperator : (" " ++ p.comparison.sql ++ " ").toList.all isNeutral = true := by
        cases p.comparison <;> rfl
      have hhead : (" " ++ p.comparison.sql ++ " ").toList.head? = some ' ' := by
        cases p.comparison <;> rfl
      rw [Template.append_assoc]
      exact stands_of_tail hcolumn (isTail_before_slot hoperator hhead p.value count)
  | member negated m =>
    obtain ⟨column, hcolumn, rfl⟩ := MemberList.term_eq_ok_iff.mp h
    rw [MemberList.template, written]
    by_cases hempty : m.values.isEmpty = true
    · rw [if_pos hempty, if_pos hempty, Template.sqlFrom_text]
      cases negated with
      | true => exact ⟨⟨rfl, ⟨'1', rfl, rfl⟩, ⟨'1', rfl, rfl⟩⟩, by decide +kernel⟩
      | false => exact ⟨⟨rfl, ⟨'1', rfl, rfl⟩, ⟨'0', rfl, rfl⟩⟩, by decide +kernel⟩
    · rw [if_neg hempty, if_neg hempty, Template.append_assoc, Template.append_assoc,
        ← Template.append_assoc (.text _)]
      exact stands_of_tail hcolumn (isTail_members negated m.values count)
  | textMatch m =>
    obtain ⟨column, hcolumn, rfl⟩ := TextMatch.term_eq_ok_iff.mp h
    have hoperator : (" " ++ letterCase.keyword ++ " ").toList.all isNeutral = true := by
      cases letterCase <;> rfl
    have hhead : (" " ++ letterCase.keyword ++ " ").toList.head? = some ' ' := by
      cases letterCase <;> rfl
    rw [TextMatch.template, Template.append_assoc]
    exact stands_of_tail hcolumn (isTail_before_slot hoperator hhead _ count)

end Restriction

namespace Template

/-- The template is a WHERE with other templates behind it, an AND between each two. -/
def Conjoins (condition : Template) (ts : List Template) : Prop :=
  condition.params = ts.flatMap params ∧
    ∀ count, condition.sqlFrom count = " WHERE " ++ " AND ".intercalate (texts count ts)

variable {t u condition : Template} {ts : List Template}

lemma conjoined_conjoins (hne : ts ≠ []) : (conjoined " WHERE " ts).Conjoins ts := by
  rw [conjoined_eq hne]
  refine ⟨by rw [params_append, params_text, params_joined, List.nil_append], ?_⟩
  intro count
  rw [sqlFrom_append, sqlFrom_text, params_text, sqlFrom_joined]
  rfl

lemma spaced_conjoins (hne : ts ≠ []) : (.text " " ++ conjoined "WHERE " ts).Conjoins ts := by
  have hwhere : " WHERE " = " " ++ "WHERE " := by decide
  rw [conjoined_eq hne]
  refine ⟨by simp only [params_append, params_text, params_joined, List.nil_append], ?_⟩
  intro count
  rw [sqlFrom_append, sqlFrom_append, sqlFrom_text, sqlFrom_text, params_text, params_text,
    sqlFrom_joined, hwhere, String.append_assoc]
  rfl

lemma Conjoins.statement_eq {parts : Conjunction} (h : condition.Conjoins ts)
    {front rest : Template} (hfront : front.IsWrittenBy parts.front)
    (hrest : rest.IsWrittenBy parts.rest) :
    (front ++ condition ++ rest).statement = parts.statement ts := by
  have hbegun : parts.front.run [] = (front.sqlFrom 0, front.params) := hfront []
  simp only [Conjunction.statement, Conjunction.chain, Conjunction.texts, hbegun, hrest _,
    statement, sql_eq_sqlFrom, params_append, sqlFrom_append, h.1, h.2, Nat.zero_add,
    String.append_assoc]

lemma isWrittenBy_empty : empty.IsWrittenBy (pure "") := by
  intro values
  rw [Writing.run_pure, sqlFrom_empty, params_empty, List.append_nil]

/-- Nothing stands behind the condition. -/
lemma Conjoins.statement_eq_last {parts : Conjunction} (h : condition.Conjoins ts)
    {front : Template} (hfront : front.IsWrittenBy parts.front) (hrest : parts.rest = pure "") :
    (front ++ condition).statement = parts.statement ts := by
  rw [← append_empty (front ++ condition)]
  exact h.statement_eq hfront (hrest ▸ isWrittenBy_empty)

lemma IsFixed.append_isWrittenBy {s : String} {w : Writing String} (ht : t.IsFixed s)
    (hu : u.IsWrittenBy w) : (t ++ u).IsWrittenBy (return s ++ (← w)) := by
  intro values
  rw [Writing.run_bind, Writing.run_pure, hu, sqlFrom_append, params_append, ht.1, ht.2,
    List.nil_append]
  rfl

end Template

section Operations

open Template

variable {settings : Settings} {st : Statement} {parts : Conjunction}

lemma Record.assignment_isWrittenBy {entry : String × Value} {t : Template}
    (h : assignment entry = .ok t) :
    t.IsWrittenBy (return entry.1 ++ " = " ++ (← entry.2.placed)) := by
  obtain ⟨column, v⟩ := entry
  obtain ⟨i, hi, ht⟩ := bind_eq_ok_iff.mp h
  rw [pure_eq_ok_iff] at ht
  have hsql : i.sql = column := (Identifier.parse_eq_ok_iff.mp hi).2
  intro values
  rw [← ht, Writing.run_bind, Writing.run_pure, Writing.run_placed]
  simp [Template.identifier, hsql, String.append_assoc]

lemma Record.assigned_isWrittenBy {r : Record} {ts : List Template}
    (h : r.entries.mapM assignment = .ok ts) : (joined ", " ts).IsWrittenBy r.assigned := by
  intro values
  have hrun := mapM_term_isWrittenBy (fun _ _ => assignment_isWrittenBy) h values
  rw [assigned, Writing.run_bind, hrun, Writing.run_pure, ← linked_eq_joined, sqlFrom_linked,
    params_linked, linkTexts_map, List.flatMap_map]

lemma Identifier.isFixed {s : String} {i : Identifier} (h : parse s = .ok i) :
    (Template.identifier i).IsFixed s := by
  rw [Template.identifier, (parse_eq_ok_iff.mp h).2]
  exact isFixed_text s

lemma Query.statement_conjoined {q : Query} (h : (q.statement settings).outcome = .ok st)
    (hparts : (Operation.select q).conjunction? = some parts) (hne : parts.restrictions ≠ []) :
    parts.Makes settings.letterCase st := by
  simp only [Operation.conjunction?, Option.ite_none_right_eq_some, Option.some.injEq,
    Bool.and_eq_true, List.isEmpty_iff] at hparts
  obtain ⟨⟨horFilter, horLike⟩, rfl⟩ := hparts
  obtain ⟨body, hbody, rfl⟩ := statement_layout h
  have hterms : q.restrictions.mapM (Restriction.term settings.letterCase) =
      .ok (body .filter ++ body .among ++ body .notAmong ++ body .like) := by
    have hfilter : q.filter.mapM Predicate.term = .ok (body .filter) := hbody .filter
    have hamong : q.among.mapM (MemberList.term false) = .ok (body .among) := hbody .among
    have hnotAmong : q.notAmong.mapM (MemberList.term true) = .ok (body .notAmong) :=
      hbody .notAmong
    have hlike : (q.like.mapM fun t =>
        (TextMatch.anywhere t.column t.text).term settings.letterCase) = .ok (body .like) :=
      hbody .like
    simp only [restrictions, List.mapM_append, List.mapM_map, Function.comp_def,
      Restriction.term, hfilter, hamong, hnotAmong, hlike]
    rfl
  have hnone {kind : Clause.Kind} (hkind : q.terms settings kind = .ok []) : body kind = [] :=
    (Except.ok.inj (hkind.symm.trans (hbody kind))).symm
  have horFilter : body .orFilter = [] := hnone (by rw [terms, horFilter]; rfl)
  have horLike : body .orLike = [] := hnone (by rw [terms, horLike]; rfl)
  have hlinks : Section.condition.links body =
      (body .filter ++ body .among ++ body .notAmong ++ body .like).map (" AND ", ·) := by
    simp [Section.links_condition, horFilter, horLike]
  refine ⟨_, hterms, ?_⟩
  rw [layout_eq, hlinks]
  exact (conjoined_conjoins (Restriction.terms_ne_nil hterms hne)).statement_eq
    (front_isFixed hbody).isWrittenBy (rest_isWrittenBy hbody)

lemma Criteria.count_conjoined {c : Criteria} {table : String}
    (h : (c.count settings table).outcome = .ok st)
    (hparts : (Operation.count table c).conjunction? = some parts)
    (hne : parts.restrictions ≠ []) : parts.Makes settings.letterCase st := by
  obtain rfl := Option.some.inj hparts
  rw [count_eq, Traced.outcome_checked_eq_ok_iff] at h
  obtain ⟨u, hu, h⟩ := bind_eq_ok_iff.mp h
  obtain ⟨condition, hcondition, h⟩ := bind_eq_ok_iff.mp h
  obtain ⟨ts, hts, rfl⟩ := Restriction.exists_terms_of_chain hcondition
  have hfront : (.text "SELECT " ++ .text "COUNT(*)" ++ .text " FROM " ++ u : Template).IsFixed
      ("SELECT COUNT(*) FROM " ++ normalized table) :=
    (((isFixed_text _).append (isFixed_text _)).append (isFixed_text _)).append
      (tableTerm_isFixed hu)
  refine ⟨ts, hts, ?_⟩
  rw [← pure_eq_ok_iff.mp h]
  exact (conjoined_conjoins (Restriction.terms_ne_nil hts hne)).statement_eq_last
    hfront.isWrittenBy rfl

lemma Criteria.lookup_conjoined {c : Criteria} {expression table : String}
    (h : (c.lookup settings expression table).outcome = .ok st)
    (hparts : (Operation.lookup expression table c).conjunction? = some parts)
    (hne : parts.restrictions ≠ []) : parts.Makes settings.letterCase st := by
  obtain rfl := Option.some.inj hparts
  rw [lookup_eq, Traced.outcome_checked_eq_ok_iff] at h
  obtain ⟨e, he, h⟩ := bind_eq_ok_iff.mp h
  obtain ⟨u, hu, h⟩ := bind_eq_ok_iff.mp h
  obtain ⟨condition, hcondition, h⟩ := bind_eq_ok_iff.mp h
  obtain ⟨ts, hts, rfl⟩ := Restriction.exists_terms_of_chain hcondition
  have hfront : (.text "SELECT " ++ e ++ .text " FROM " ++ u : Template).IsFixed
      ("SELECT " ++ trimmed expression ++ " FROM " ++ normalized table) :=
    (((isFixed_text _).append (expressionTerm_isFixed he)).append (isFixed_text _)).append
      (tableTerm_isFixed hu)
  have hrest : (.headed " " [(" ", .text "LIMIT 1")] : Template).IsFixed " LIMIT 1" :=
    (isFixed_text " ").append (isFixed_text "LIMIT 1")
  refine ⟨ts, hts, ?_⟩
  rw [← pure_eq_ok_iff.mp h]
  exact (conjoined_conjoins (Restriction.terms_ne_nil hts hne)).statement_eq hfront.isWrittenBy
    hrest.isWrittenBy

lemma Record.updateStatement_conjoined {r : Record} {c : Criteria} {table : String}
    (h : (r.updateStatement settings table c).outcome = .ok st)
    (hparts : (Operation.update table r c).conjunction? = some parts)
    (hne : parts.restrictions ≠ []) : parts.Makes settings.letterCase st := by
  obtain rfl := Option.some.inj hparts
  rw [updateStatement_eq, Traced.outcome_checked_eq_ok_iff] at h
  obtain ⟨i, hi, h⟩ := bind_eq_ok_iff.mp h
  split_ifs at h
  obtain ⟨assignments, hassignments, h⟩ := bind_eq_ok_iff.mp h
  obtain ⟨condition, hcondition, h⟩ := bind_eq_ok_iff.mp h
  obtain ⟨ts, hts, rfl⟩ := Restriction.exists_terms_of_chain hcondition
  have hfront := (((isFixed_text "UPDATE ").append (Identifier.isFixed hi)).append
    (isFixed_text " SET ")).append_isWrittenBy (assigned_isWrittenBy hassignments)
  refine ⟨ts, hts, ?_⟩
  rw [← pure_eq_ok_iff.mp h, Template.append_assoc _ (.text " ")]
  exact (spaced_conjoins (Restriction.terms_ne_nil hts hne)).statement_eq_last hfront rfl

lemma Criteria.deleteStatement_conjoined {c : Criteria} {table : String}
    (h : (c.deleteStatement settings table).outcome = .ok st)
    (hparts : (Operation.delete table c).conjunction? = some parts)
    (hne : parts.restrictions ≠ []) : parts.Makes settings.letterCase st := by
  obtain rfl := Option.some.inj hparts
  rw [deleteStatement_eq, Traced.outcome_checked_eq_ok_iff] at h
  obtain ⟨i, hi, h⟩ := bind_eq_ok_iff.mp h
  split_ifs at h
  obtain ⟨condition, hcondition, h⟩ := bind_eq_ok_iff.mp h
  obtain ⟨ts, hts, rfl⟩ := Restriction.exists_terms_of_chain hcondition
  have hfront := (isFixed_text "DELETE FROM ").append (Identifier.isFixed hi)
  refine ⟨ts, hts, ?_⟩
  rw [← pure_eq_ok_iff.mp h, Template.append_assoc _ (.text " ")]
  exact (spaced_conjoins (Restriction.terms_ne_nil hts hne)).statement_eq_last
    hfront.isWrittenBy rfl

/-- The statement of an operation without alternatives has the terms of its restrictions behind
the WHERE. -/
theorem Operation.statement_conjoined {op : Operation}
    (h : (op.statement settings).outcome = .ok st) (hparts : op.conjunction? = some parts)
    (hne : parts.restrictions ≠ []) : parts.Makes settings.letterCase st := by
  cases op with
  | select q => exact Query.statement_conjoined h hparts hne
  | count table c => exact Criteria.count_conjoined h hparts hne
  | lookup expression table c => exact Criteria.lookup_conjoined h hparts hne
  | insert table r identifier => simp [conjunction?] at hparts
  | insertReturning table r identifier => simp [conjunction?] at hparts
  | update table r c => exact Record.updateStatement_conjoined h hparts hne
  | delete table c => exact Criteria.deleteStatement_conjoined h hparts hne

open Condition Formula

/-- The column texts of restrictions bring no AND and no OR outside of parentheses. -/
def Restriction.BringNoJunction (rs : List Restriction) : Prop :=
  ∀ r ∈ rs, ∀ column ∈ r.written, junctions column.toList = []

/-- The texts of terms, each behind the values of those before it. -/
lemma Restriction.texts_stand {letterCase : LetterCase} {rs : List Restriction}
    {ts : List Template} (h : rs.mapM (term letterCase) = .ok ts) (count : Nat) :
    List.Forall₂ (fun r text => IsTerm text.toList ∧
      junctions text.toList = r.written.flatMap fun s => junctions s.toList)
      rs (Template.texts count ts) := by
  have hts := mapM_eq_ok_iff.mp h
  clear h
  induction hts generalizing count with
  | nil => exact .nil
  | cons hterm _ ih => exact .cons (term_stands hterm count) (ih _)

lemma Restriction.texts_ne_nil {letterCase : LetterCase} {rs : List Restriction}
    {ts : List Template} (h : rs.mapM (term letterCase) = .ok ts) (hne : rs ≠ []) (count : Nat) :
    Template.texts count ts ≠ [] := by
  intro hnil
  have hstand := texts_stand h count
  rw [hnil] at hstand
  exact hne (List.forall₂_nil_right_iff.mp hstand)

lemma forall_iff_of_forall₂ {α β : Type} {R : α → β → Prop} {p : α → Prop} {q : β → Prop}
    {xs : List α} {ys : List β} (h : List.Forall₂ R xs ys) (hR : ∀ x y, R x y → (q y ↔ p x)) :
    (∀ y ∈ ys, q y) ↔ ∀ x ∈ xs, p x := by
  induction h with
  | nil => simp
  | cons hxy _ ih => rw [List.forall_mem_cons, List.forall_mem_cons, hR _ _ hxy, ih]

/-- The terms of restrictions are cut apart again, unless a column text is cut itself. -/
lemma Restriction.tokens_intercalate_iff {letterCase : LetterCase} {rs : List Restriction}
    {ts : List Template} (h : rs.mapM (term letterCase) = .ok ts) (hne : rs ≠ []) (count : Nat) :
    tokens (" AND ".intercalate (Template.texts count ts)).toList =
        Token.chain (((Template.texts count ts).map String.toList).map (.and, ·)) ↔
      BringNoJunction rs := by
  have hstand := texts_stand h count
  have hbetween : " AND ".toList = between := rfl
  have htexts : (Template.texts count ts).map String.toList ≠ [] := by
    simpa using texts_ne_nil h hne count
  have hterms : ∀ t ∈ (Template.texts count ts).map String.toList, IsTerm t := by
    intro t ht
    obtain ⟨text, htext, rfl⟩ := List.mem_map.mp ht
    obtain ⟨r, -, hr⟩ := exists_of_forall₂_mem hstand htext
    exact hr.1
  rw [String.toList_intercalate, hbetween,
    Condition.tokens_intercalate_iff htexts hterms, List.forall_mem_map]
  refine forall_iff_of_forall₂ hstand ?_
  rintro r text ⟨-, hjunctions⟩
  rw [hjunctions, List.flatMap_eq_nil_iff]

/-- Where no alternative is asked for, the statement is a front, the terms behind a WHERE with an
AND between each two, and a rest. Cut at every AND and OR outside of parentheses the terms are given
back, and no OR, if and only if no column text brings an AND or OR itself. Then the clause holds
where every term does, each of them taken as one operand. -/
theorem Operation.restrictions_conjoined {op : Operation}
    (h : (op.statement settings).outcome = .ok st) (hparts : op.conjunction? = some parts)
    (hne : parts.restrictions ≠ []) :
    ∃ ts, parts.restrictions.mapM (Restriction.term settings.letterCase) = .ok ts ∧
      let terms := (parts.texts ts).map String.toList
      st = parts.statement ts ∧
      (tokens (parts.chain ts).toList = Token.chain (terms.map (.and, ·)) ↔
        Restriction.BringNoJunction parts.restrictions) ∧
      (Restriction.BringNoJunction parts.restrictions →
        (∃ f, Reads (tokens (parts.chain ts).toList) f) ∧
        ∀ f, Reads (tokens (parts.chain ts).toList) f →
          ∀ {α : Type} [Lattice α] [BoundedOrder α] (v : List Char → α),
            f.value v = allOf (terms.map v)) := by
  obtain ⟨ts, hts, hst⟩ := statement_conjoined h hparts hne
  have hcut := Restriction.tokens_intercalate_iff hts hne (parts.front.run []).2.length
  have hterms : (parts.texts ts).map String.toList ≠ [] := by
    rw [ne_eq, List.map_eq_nil_iff]
    exact Restriction.texts_ne_nil hts hne _
  refine ⟨ts, hts, hst, hcut, ?_⟩
  intro hnone
  have htokens : tokens (parts.chain ts).toList =
      Token.chain (((parts.texts ts).map String.toList).map (.and, ·)) := hcut.mpr hnone
  rw [htokens]
  exact ⟨exists_reads (by simpa using hterms), fun f hf _ _ _ v => hf.value_eq_allOf hterms v⟩

theorem Operation.restrictions_conjoined_update :
    let r : Record := ⟨[("city", .text "Rome")]⟩
    let c : Criteria :=
      { filter := [⟨"lower(name)", .eq, .text "x"⟩], among := [⟨"id", [.int 1, .int 2]⟩] }
    let op : Operation := .update "users" r c
    ∃ parts, op.conjunction? = some parts ∧ parts.restrictions ≠ [] ∧
      Restriction.BringNoJunction parts.restrictions ∧
      ∃ st, (op.statement {}).outcome = .ok st ∧
        st.sql = "UPDATE users SET city = $1 WHERE lower(name) = $2 AND id IN ($3, $4)" ∧
        ∃ ts, parts.restrictions.mapM (Restriction.term .ignored) = .ok ts ∧
          st = parts.statement ts ∧ ∃ f, Reads (tokens (parts.chain ts).toList) f := by
  intro r c op
  have hne : c.restrictions ≠ [] := List.cons_ne_nil _ _
  have hnone : Restriction.BringNoJunction c.restrictions := by
    have hrestrictions : c.restrictions =
      [.predicate ⟨"lower(name)", .eq, .text "x"⟩, .member false ⟨"id", [.int 1, .int 2]⟩] := rfl
    simp only [Restriction.BringNoJunction, hrestrictions, Restriction.written,
      List.forall_mem_cons]
    decide +kernel
  refine ⟨_, rfl, hne, hnone, exists_statement_of_sql (by decide +kernel) ?_⟩
  intro st hst
  obtain ⟨ts, hts, hparts, -, hreads⟩ := restrictions_conjoined hst rfl hne
  exact ⟨ts, hts, hparts, (hreads hnone).1⟩

/-- A column text with an alternative in it is cut there, and the rows that meet its first half are
deleted whatever the other restrictions say. A column text without junctions need not be an operand
either: behind a RETURNING nothing restricts the rows. -/
theorem Criteria.deleteStatement_widened :
    let alternative : Criteria := { filter := [⟨"a = b OR c", .eq, .int 1⟩, ⟨"d", .eq, .int 2⟩] }
    let returning : Criteria :=
      { filter := [⟨"active RETURNING id", .eq, .int 1⟩, ⟨"d", .eq, .int 2⟩] }
    let terms := ["a = b OR c = $1", "d = $2"]
    (∃ st, (alternative.deleteStatement {} "t").outcome = .ok st ∧
      st.sql = "DELETE FROM t WHERE a = b OR c = $1 AND d = $2" ∧
      (alternative.restrictions.mapM (Restriction.term .ignored)).map (Template.texts 0) =
        .ok terms ∧
      tokens (" AND ".intercalate terms).toList =
        [.term "a = b".toList, .junction .or, .term "c = $1".toList, .junction .and,
          .term "d = $2".toList] ∧
      tokens (" AND ".intercalate terms).toList ≠
        Token.chain ((terms.map String.toList).map (.and, ·)) ∧
      ∃ f, Reads (tokens (" AND ".intercalate terms).toList) f ∧
        f.value (· == "a = b".toList) = true) ∧
    ∃ st, (returning.deleteStatement {} "t").outcome = .ok st ∧
      st.sql = "DELETE FROM t WHERE active RETURNING id = $1 AND d = $2" ∧
      Restriction.BringNoJunction returning.restrictions := by
  intro alternative returning terms
  have hcut : tokens (" AND ".intercalate terms).toList =
      [.term "a = b".toList, .junction .or, .term "c = $1".toList, .junction .and,
        .term "d = $2".toList] := by
    decide +kernel
  constructor
  · refine Operation.exists_statement_of_sql (by decide +kernel) ?_
    intro st hst
    refine ⟨by rfl, hcut, by rw [hcut]; decide, ?_⟩
    rw [hcut]
    exact ⟨_, .or (.conjunction (.term _)) (.and (.term _) _), by decide⟩
  · refine Operation.exists_statement_of_sql (by decide +kernel) ?_
    intro st hst
    have hrestrictions : returning.restrictions =
      [.predicate ⟨"active RETURNING id", .eq, .int 1⟩, .predicate ⟨"d", .eq, .int 2⟩] := rfl
    simp only [Restriction.BringNoJunction, hrestrictions, Restriction.written,
      List.forall_mem_cons]
    decide +kernel

end Operations
end TableAccess
