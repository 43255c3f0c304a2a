import TableAccess.Proofs.Fragment
import TableAccess.Proofs.Outcome
import TableAccess.Proofs.Template
import TableAccess.Statement.Terms

/-!
# When a part of a query has a term, and which

One lemma for each kind of part: the checks that its term takes and the template that it is. A
checked expression is its text without the blanks at its ends.
-/

namespace TableAccess

theorem expressionTerm_eq_ok_iff {s : String} {t : Template} :
    expressionTerm s = .ok t ↔ ∃ f, Fragment.parse s = .ok f ∧ .fragment f = t := by
  rw [expressionTerm, map_eq_ok_iff]

theorem tableTerm_eq_ok_iff {s : String} {t : Template} :
    tableTerm s = .ok t ↔ ∃ r, TableReference.parse s = .ok r ∧ .table r = t := by
  rw [tableTerm, map_eq_ok_iff]

/-- A predicate about a checked column. -/
def Predicate.template (p : Predicate) (column : Fragment) : Template :=
  if p.value.isNull then
    .fragment column ++ .text (if p.comparison = .eq then " IS NULL" else " IS NOT NULL")
  else .fragment column ++ .text (" " ++ p.comparison.sql ++ " ") ++ .slot p.value

/-- NULL has no place in an order. -/
def Predicate.ordersNull (p : Predicate) : Prop :=
  p.value.isNull = true ∧ p.comparison ≠ .eq ∧ p.comparison ≠ .ne

lemma Predicate.comparisonTerm_eq_ok_iff {p : Predicate} {column : Fragment} {t : Template} :
    p.comparisonTerm column = .ok t ↔ ¬p.ordersNull ∧ p.template column = t := by
  rw [comparisonTerm, ordersNull, template]
  by_cases hnull : p.value.isNull = true
  · cases hc : p.comparison <;> simp [hnull]
  · simp [hnull]

theorem Predicate.term_eq_ok_iff {p : Predicate} {t : Template} :
    p.term = .ok t ↔ endsInOperator p.column = false ∧
      ∃ column, Fragment.parse p.column = .ok column ∧ ¬p.ordersNull ∧ p.template column = t := by
  rw [term]
  by_cases hword : endsInOperator p.column = true
  · simp [hword]
  · rw [if_neg hword]
    change Fragment.parse p.column >>= p.comparisonTerm = .ok t ↔ _
    simp only [bind_eq_ok_iff, comparisonTerm_eq_ok_iff, hword, true_and]

/-- A list of values for a checked column. -/
def MemberList.template (negated : Bool) (m : MemberList) (column : Fragment) : Template :=
  if m.values.isEmpty then .text (if negated then "1=1" else "1=0")
  else .fragment column ++ .text (operator negated) ++ .slots m.values ++ .text ")"

theorem MemberList.term_eq_ok_iff {negated : Bool} {m : MemberList} {t : Template} :
    m.term negated = .ok t ↔
      ∃ column, Fragment.parse m.column = .ok column ∧ m.template negated column = t := by
  rw [term, bind_eq_ok_iff]
  simp only [template]
  by_cases hempty : m.values.isEmpty = true
  · simp [hempty]
  · simp [hempty]

/-- A search for a text in a checked column. -/
def TextMatch.template (letterCase : LetterCase) (m : TextMatch) (column : Fragment) : Template :=
  .fragment column ++ .text (" " ++ letterCase.keyword ++ " ") ++ .slot (.text m.pattern)

theorem TextMatch.term_eq_ok_iff {letterCase : LetterCase} {m : TextMatch} {t : Template} :
    m.term letterCase = .ok t ↔
      ∃ column, Fragment.parse m.column = .ok column ∧ m.template letterCase column = t := by
  rw [term, bind_eq_ok_iff]
  simp only [template, pure_eq_ok_iff]

/-- A join of a checked table on a checked condition. -/
def Join.template (j : Join) (table : TableReference) (condition : Fragment) : Template :=
  .text (j.kind.sql ++ " ") ++ .table table ++ .text " ON " ++ .fragment condition

theorem Join.term_eq_ok_iff {j : Join} {t : Template} :
    j.term = .ok t ↔ ∃ table condition, TableReference.parse j.table = .ok table ∧
      Fragment.parse j.condition = .ok condition ∧ j.template table condition = t := by
  rw [term, bind_eq_ok_iff]
  simp only [bind_eq_ok_iff, template, pure_eq_ok_iff]
  constructor
  · rintro ⟨table, htable, condition, hcondition, ht⟩
    exact ⟨table, condition, htable, hcondition, ht⟩
  · rintro ⟨table, condition, htable, hcondition, ht⟩
    exact ⟨table, htable, condition, hcondition, ht⟩

/-- The template of a limit or an offset that is not negative. -/
def pagingTemplates (clause : String) (n : Option Int64) : List Template :=
  (n.toList.filter (0 < ·)).map fun n => .text (clause ++ " ") ++ .slot (.int n)

theorem pagingTerm_eq_ok_iff {clause : String} {n : Option Int64} {ts : List Template} :
    pagingTerm clause n = .ok ts ↔ (∀ k ∈ n, 0 ≤ k) ∧ pagingTemplates clause n = ts := by
  cases n with
  | none => simp [pagingTerm, pagingTemplates]
  | some n =>
    by_cases hneg : n < 0
    · have hle : ¬0 ≤ n := Int64.not_le.mpr hneg
      simp [pagingTerm, hneg, hle]
    · have hle : 0 ≤ n := Int64.not_lt.mp hneg
      by_cases hzero : n = 0
      · simp [pagingTerm, pagingTemplates, hzero]
      · have hpos : 0 < n := by
          rw [Int64.lt_iff_le_and_ne]
          exact ⟨hle, fun h => hzero h.symm⟩
        simp [pagingTerm, pagingTemplates, hneg, hle, hzero, hpos]

end TableAccess
