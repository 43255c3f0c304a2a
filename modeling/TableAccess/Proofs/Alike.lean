import TableAccess.Proofs.Assembly
import TableAccess.Proofs.Related
import TableAccess.Proofs.Terms

/-!
# Inputs that differ in their values only

Two inputs are alike if they agree in everything but values: predicates may differ in a value
that is NULL in neither or in both, lists in values of the same number, text matches in the text
they look for, and limits in their size. Terms of alike inputs have the same text and the same
number of slots, and so have the clauses made of them.
-/

namespace TableAccess

/-- Predicates on one column that agree on whether the value is NULL. -/
structure Predicate.Alike (p q : Predicate) : Prop where
  column : p.column = q.column
  comparison : p.comparison = q.comparison
  isNull : p.value.isNull = q.value.isNull

/-- Lists for one column with the same number of values. -/
structure MemberList.Alike (m n : MemberList) : Prop where
  column : m.column = n.column
  length : m.values.length = n.values.length

/-- Searches in one column. -/
def TextMatch.Alike (s t : TextMatch) : Prop :=
  s.column = t.column

/-- Limits or offsets that are both negative, both positive or both neither; a missing one counts
as zero. -/
structure PagingAlike (m n : Option Int64) : Prop where
  negative : m.getD 0 < 0 ↔ n.getD 0 < 0
  positive : 0 < m.getD 0 ↔ 0 < n.getD 0

/-- Criteria that agree in everything but values. -/
structure Criteria.Alike (c d : Criteria) : Prop where
  filter : List.Forall₂ Predicate.Alike c.filter d.filter
  among : List.Forall₂ MemberList.Alike c.among d.among

/-- Records with the same columns in the same order. -/
def Record.Alike (r s : Record) : Prop :=
  r.columns = s.columns

/-- Queries that agree in everything but values. -/
structure Query.Alike (q r : Query) : Prop where
  columns : q.columns = r.columns
  table : q.table = r.table
  joins : q.joins = r.joins
  filter : List.Forall₂ Predicate.Alike q.filter r.filter
  orFilter : List.Forall₂ Predicate.Alike q.orFilter r.orFilter
  among : List.Forall₂ MemberList.Alike q.among r.among
  notAmong : List.Forall₂ MemberList.Alike q.notAmong r.notAmong
  like : List.Forall₂ TextMatch.Alike q.like r.like
  orLike : List.Forall₂ TextMatch.Alike q.orLike r.orLike
  groupBy : q.groupBy = r.groupBy
  orHaving : List.Forall₂ Predicate.Alike q.orHaving r.orHaving
  orderBy : q.orderBy = r.orderBy
  limit : PagingAlike q.limit r.limit
  offset : PagingAlike q.offset r.offset

/-- The text of a piece; a slot has none. -/
def Piece.text? : Piece → Option String
  | text s => some s
  | slot _ => none

namespace Template

/-- Templates with the same texts and with slots in the same places. -/
def Alike (t u : Template) : Prop :=
  t.pieces.map Piece.text? = u.pieces.map Piece.text?

lemma Alike.refl (t : Template) : t.Alike t := rfl

lemma Alike.append {t u t' u' : Template} (ht : t.Alike t') (hu : u.Alike u') :
    (t ++ u).Alike (t' ++ u') := by
  rw [Alike, pieces_append, pieces_append, List.map_append, List.map_append, ht, hu]

lemma alike_slot (v w : Value) : (slot v).Alike (slot w) := rfl

lemma Alike.joined {ts us : List Template} (h : List.Forall₂ Alike ts us) (separator : String) :
    (joined separator ts).Alike (joined separator us) := by
  induction h with
  | nil => exact .refl _
  | @cons t u ts us htu hrest ih =>
    cases hrest with
    | nil => exact htu
    | cons _ _ => exact (htu.append (.refl _)).append ih

lemma alike_map_slot {vs ws : List Value} (h : vs.length = ws.length) :
    List.Forall₂ Alike (vs.map slot) (ws.map slot) := by
  induction vs generalizing ws with
  | nil =>
    rw [List.length_eq_zero_iff.mp h.symm]
    exact .nil
  | cons v vs ih =>
    cases ws with
    | nil => simp at h
    | cons w ws => exact .cons (alike_slot v w) (ih (by simpa using h))

lemma renderFrom_of_text {ps qs : List Piece} (h : ps.map Piece.text? = qs.map Piece.text?)
    (count : Nat) : renderFrom count ps = renderFrom count qs := by
  induction ps generalizing qs count with
  | nil =>
    rw [List.map_eq_nil_iff.mp h.symm]
  | cons p ps ih =>
    cases qs with
    | nil => simp at h
    | cons q qs =>
      simp only [List.map_cons, List.cons.injEq] at h
      obtain ⟨hp, hrest⟩ := h
      cases p <;> cases q <;> simp_all [Piece.text?, renderFrom, ih hrest]

lemma length_params_of_text {ps qs : List Piece} (h : ps.map Piece.text? = qs.map Piece.text?) :
    (ps.filterMap Piece.value?).length = (qs.filterMap Piece.value?).length := by
  induction ps generalizing qs with
  | nil => rw [List.map_eq_nil_iff.mp h.symm]
  | cons p ps ih =>
    cases qs with
    | nil => simp at h
    | cons q qs =>
      simp only [List.map_cons, List.cons.injEq] at h
      obtain ⟨hp, hrest⟩ := h
      cases p <;> cases q <;> simp_all [Piece.text?, Piece.value?, List.filterMap_cons, ih hrest]

/-- Alike templates make statements with the same text and the same number of parameters. -/
theorem Alike.statement {t u : Template} (h : t.Alike u) :
    t.statement.sql = u.statement.sql ∧
      t.statement.params.length = u.statement.params.length :=
  ⟨renderFrom_of_text h 0, length_params_of_text h⟩

end Template

section Terms

open Template

theorem Predicate.term_related {p q : Predicate} (h : p.Alike q) :
    Related Template.Alike p.term q.term := by
  obtain ⟨column, comparison, v⟩ := p
  obtain ⟨other, another, w⟩ := q
  obtain ⟨rfl, rfl, hnull⟩ := h
  simp only [term]
  split_ifs
  · exact .error
  · refine Related.bind_same (Fragment.parse column) ?_
    intro f
    simp only [comparisonTerm]
    simp only at hnull
    rw [hnull]
    cases hw : w.isNull with
    | true => cases comparison <;> first | exact .ok (.refl _) | exact .error
    | false => exact .ok (.append (.refl _) (alike_slot v w))

theorem MemberList.term_related {m n : MemberList} (h : m.Alike n) (negated : Bool) :
    Related Template.Alike (m.term negated) (n.term negated) := by
  obtain ⟨column, values⟩ := m
  obtain ⟨other, others⟩ := n
  obtain ⟨rfl, hlength⟩ := h
  refine Related.bind_same (Fragment.parse column) ?_
  intro f
  have hempty : values.isEmpty = others.isEmpty := by
    rw [Bool.eq_iff_iff, List.isEmpty_iff_length_eq_zero, List.isEmpty_iff_length_eq_zero]
    simp only at hlength
    rw [hlength]
  by_cases hother : others.isEmpty = true
  · simp only [hempty, if_pos hother]
    exact .ok (.refl _)
  · simp only [hempty, if_neg hother]
    exact .ok (.append (.append (.refl _) (.joined (alike_map_slot hlength) _)) (.refl _))

theorem TextMatch.term_related {s t : TextMatch} (h : s.Alike t) (letterCase : LetterCase) :
    Related Template.Alike (s.term letterCase) (t.term letterCase) := by
  rw [term, term, h]
  refine Related.bind_same (Fragment.parse t.column) ?_
  intro f
  exact .ok (.append (.refl _) (alike_slot _ _))

lemma pagingTerm_of_negative {n : Option Int64} (h : n.getD 0 < 0) (clause : String) :
    ∃ cause, pagingTerm clause n = .error cause := by
  cases n with
  | none => exact absurd h (by decide)
  | some n => exact ⟨_, if_pos h⟩

lemma pagingTerm_of_zero {n : Option Int64} (hnegative : ¬n.getD 0 < 0) (hpositive : ¬0 < n.getD 0)
    (clause : String) : pagingTerm clause n = .ok [] := by
  cases n with
  | none => rfl
  | some n =>
    have hzero : n = 0 :=
      Int64.le_antisymm (Int64.not_lt.mp hpositive) (Int64.not_lt.mp hnegative)
    rw [hzero]
    rfl

lemma pagingTerm_of_positive {n : Option Int64} (h : 0 < n.getD 0) (clause : String) :
    pagingTerm clause n = .ok [.text (clause ++ " ") ++ .slot (.int (n.getD 0))] := by
  cases n with
  | none => exact absurd h (by decide)
  | some n =>
    have hnegative : ¬n < 0 := Int64.not_lt.mpr (Int64.le_of_lt h)
    have hzero : n ≠ 0 := fun hn => Int64.lt_irrefl (hn ▸ h)
    rw [pagingTerm, if_neg hnegative, if_neg hzero]
    rfl

theorem pagingTerm_related {m n : Option Int64} (h : PagingAlike m n) (clause : String) :
    Related (List.Forall₂ Template.Alike) (pagingTerm clause m) (pagingTerm clause n) := by
  by_cases hnegative : m.getD 0 < 0
  · obtain ⟨cause, hm⟩ := pagingTerm_of_negative hnegative clause
    obtain ⟨other, hn⟩ := pagingTerm_of_negative (h.negative.mp hnegative) clause
    rw [hm, hn]
    exact .error
  · by_cases hpositive : 0 < m.getD 0
    · rw [pagingTerm_of_positive hpositive, pagingTerm_of_positive (h.positive.mp hpositive)]
      exact .ok (.cons (.append (.refl _) (alike_slot _ _)) .nil)
    · rw [pagingTerm_of_zero hnegative hpositive,
        pagingTerm_of_zero (mt h.negative.mpr hnegative) (mt h.positive.mpr hpositive)]
      exact .ok .nil

end Terms
end TableAccess
