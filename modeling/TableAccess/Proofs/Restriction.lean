import TableAccess.Proofs.Layout
import TableAccess.Proofs.Terms

/-!
# Restrictions

A restriction is a predicate, a list or a text match that an AND attaches to what stands before
it. Criteria consist of restrictions only, so each of their statements is a frame around the same
chain of terms: `Criteria.query_statement_eq`, `Criteria.count_eq`, `Criteria.lookup_eq`,
`Criteria.deleteStatement_eq` and `Record.updateStatement_eq` say which checks such a statement
takes, in which order, and what it is made of.
-/

namespace TableAccess

/-- A condition that an AND attaches to what stands before it. -/
inductive Restriction where
  | predicate (p : Predicate)
  | member (negated : Bool) (m : MemberList)
  | textMatch (m : TextMatch)

namespace Restriction

/-- The kind of the clause of a restriction. -/
def kind : Restriction → Clause.Kind
  | predicate _ => .filter
  | member false _ => .among
  | member true _ => .notAmong
  | textMatch _ => .like

/-- The term of a restriction; a text is looked for anywhere. -/
def term (letterCase : LetterCase) : Restriction → Except Refusal Template
  | predicate p => p.term
  | member negated m => m.term negated
  | textMatch m => (TextMatch.anywhere m.column m.text).term letterCase

def clause (letterCase : LetterCase) (r : Restriction) : Except Refusal Clause :=
  (r.term letterCase).map (Clause.mk r.kind)

end Restriction

/-- The restrictions that criteria consist of. -/
def Criteria.restrictions (c : Criteria) : List Restriction :=
  c.filter.map .predicate ++ c.among.map (.member false)

/-- The restrictions of a query, whatever alternatives stand between them. -/
def Query.restrictions (q : Query) : List Restriction :=
  q.filter.map .predicate ++ q.among.map (.member false) ++ q.notAmong.map (.member true) ++
    q.like.map .textMatch

lemma Criteria.restrictions_eq_nil_iff {c : Criteria} :
    c.restrictions = [] ↔ c.isEmpty = true := by
  simp [restrictions, isEmpty, List.isEmpty_iff]

/-- Terms with an AND between each two behind a keyword; nothing if there are none. -/
def Template.conjoined (keyword : String) (ts : List Template) : Template :=
  .headed keyword (ts.map (" AND ", ·))

namespace Template

@[simp] lemma headed_nil (keyword : String) : headed keyword [] = .empty := rfl

lemma conjoined_eq {ts : List Template} (h : ts ≠ []) (keyword : String) :
    conjoined keyword ts = .text keyword ++ joined " AND " ts := by
  rw [conjoined, headed, if_neg (by simpa using h), linked_eq_joined]

end Template

namespace Clause

/-- Clauses of restrictions in the order of their kinds. -/
structure Restricting (cs : List Clause) : Prop where
  section_eq : ∀ c ∈ cs, Section.of c.kind = .condition
  junction_eq : ∀ c ∈ cs, c.kind.junction = .and
  sorted : cs.Pairwise fun c d => c.kind.rank ≤ d.kind.rank

lemma danglingFrom_eq_nil {cs : List Clause} (h : ∀ c ∈ cs, c.kind.junction = .and)
    (current : Option Section) : danglingFrom current cs = [] := by
  induction cs generalizing current with
  | nil => rfl
  | cons c cs ih =>
    obtain ⟨hc, hcs⟩ := List.forall_mem_cons.mp h
    have hdangles : dangles current c.kind = false := by simp [dangles, hc]
    simp [danglingFrom, hdangles, ih hcs]

/-- Without alternatives clauses are assembled as they are arranged, and nothing is logged. -/
lemma assemble_of_and (settings : Settings) {cs : List Clause}
    (h : ∀ c ∈ cs, c.kind.junction = .and) :
    assemble settings cs = pure (writeFrom none (arrange cs)) := by
  have harranged : ∀ c ∈ arrange cs, c.kind.junction = .and :=
    fun c hc => h c (mem_arrange.mp hc)
  rw [assemble, danglingFrom_eq_nil harranged]
  rfl

lemma place_of_lt {c : Clause} {ds : List Clause} (h : ∀ d ∈ ds, d.kind.rank < c.kind.rank) :
    place c ds = ds ++ [c] := by
  induction ds with
  | nil => rfl
  | cons d ds ih =>
    obtain ⟨hd, hds⟩ := List.forall_mem_cons.mp h
    rw [place, if_neg (Nat.not_le.mpr hd), ih hds]
    rfl

/-- The ranks of the kinds in the WHERE clause lie behind those of the columns and the table, and
before that of the paging. -/
lemma rank_of_condition {c : Clause} (h : Section.of c.kind = .condition) :
    Kind.column.rank ≤ c.kind.rank ∧ Kind.table.rank ≤ c.kind.rank ∧
      c.kind.rank < Kind.paging.rank := by
  cases hkind : c.kind <;> rw [hkind] at h <;> first | decide | exact absurd h (by decide)

variable {cs : List Clause}

lemma Restricting.map_link (h : Restricting cs) :
    cs.map link = (cs.map body).map (" AND ", ·) := by
  rw [List.map_map]
  refine List.map_congr_left ?_
  intro c hc
  simp only [link, Function.comp, h.section_eq c hc, h.junction_eq c hc]
  rfl

theorem Restricting.assemble (h : Restricting cs) (settings : Settings) :
    Clause.assemble settings cs = pure (.conjoined "WHERE " (cs.map body)) := by
  rw [assemble_of_and settings h.junction_eq, arrange_eq_self h.sorted]
  congr 1
  cases cs with
  | nil => rfl
  | cons c cs =>
    rw [writeFrom_none (by simp) h.section_eq, h.map_link]
    rfl

/-- Restrictions that stand between a table and a paging. -/
lemma Restricting.writeFrom_between (h : Restricting cs) (e t : Template) (ps : List Template) :
    writeFrom none ([⟨.column, e⟩, ⟨.table, t⟩] ++ cs ++ ps.map (Clause.mk .paging)) =
      .text "SELECT " ++ e ++ .text " FROM " ++ t ++ .conjoined " WHERE " (cs.map body) ++
        .headed " " (ps.map (" ", ·)) := by
  let blocks : List (Section × List Clause) :=
    [(.table, [⟨.table, t⟩]), (.condition, cs), (.paging, ps.map (Clause.mk .paging))]
  have hsplit : [⟨.column, e⟩, ⟨.table, t⟩] ++ cs ++ ps.map (Clause.mk .paging) =
      [⟨.column, e⟩] ++ blocks.flatMap Prod.snd := by
    simp [blocks]
  have hcolumns : ∀ c ∈ [Clause.mk .column e], Section.of c.kind = .columns := by simp [Section.of]
  have hblocks : ∀ b ∈ blocks, ∀ c ∈ b.2, Section.of c.kind = b.1 := by
    simp [blocks, Section.of]
    exact h.section_eq
  have hpaging : (ps.map (Clause.mk .paging)).map link = ps.map (" ", ·) := by
    rw [List.map_map]
    rfl
  rw [hsplit, writeFrom_append, writeFrom_none (by simp) hcolumns,
    sectionBehind_none (by simp) hcolumns, writeFrom_blocks hblocks (by simp [blocks])]
  simp only [blocks, List.foldr_cons, List.foldr_nil, h.map_link, hpaging, List.map_cons,
    List.map_nil, link, Template.linked, Template.headed_cons, Template.continued,
    Template.append_empty, Template.append_assoc]
  rfl

/-- Restrictions are in place between a table and a paging. -/
lemma Restricting.sorted_between (h : Restricting cs) (e t : Template) (ps : List Template) :
    List.Pairwise (fun c d : Clause => c.kind.rank ≤ d.kind.rank)
      ([⟨.column, e⟩, ⟨.table, t⟩] ++ cs ++ ps.map (Clause.mk .paging)) := by
  have hrank : ∀ c ∈ cs, Kind.column.rank ≤ c.kind.rank ∧ Kind.table.rank ≤ c.kind.rank ∧
      c.kind.rank < Kind.paging.rank := fun c hc => rank_of_condition (h.section_eq c hc)
  have hpaging : ∀ c ∈ ps.map (Clause.mk .paging), c.kind = .paging := by
    intro c hc
    obtain ⟨p, -, rfl⟩ := List.mem_map.mp hc
    rfl
  have hbehind : (cs ++ ps.map (Clause.mk .paging)).Pairwise
      fun c d => c.kind.rank ≤ d.kind.rank := by
    refine List.pairwise_append.mpr ⟨h.sorted, List.pairwise_of_forall_mem_list ?_, ?_⟩
    · intro c hc d hd
      rw [hpaging c hc, hpaging d hd]
    · intro c hc d hd
      rw [hpaging d hd]
      exact (hrank c hc).2.2.le
  have hfront : ∀ d ∈ cs ++ ps.map (Clause.mk .paging),
      Kind.column.rank ≤ d.kind.rank ∧ Kind.table.rank ≤ d.kind.rank := by
    intro d hd
    rcases List.mem_append.mp hd with hd | hd
    · exact ⟨(hrank d hd).1, (hrank d hd).2.1⟩
    · rw [hpaging d hd]
      decide
  rw [List.append_assoc, List.cons_append, List.singleton_append, List.pairwise_cons,
    List.pairwise_cons]
  refine ⟨?_, fun d hd => (hfront d hd).2, hbehind⟩
  intro d hd
  rcases List.mem_cons.mp hd with rfl | hd
  · exact Nat.le_of_lt (Nat.zero_lt_one)
  · exact (hfront d hd).1

theorem Restricting.assemble_query (h : Restricting cs) (settings : Settings) (e t : Template)
    (ps : List Template) :
    Clause.assemble settings ([⟨.column, e⟩, ⟨.table, t⟩] ++ cs ++ ps.map (Clause.mk .paging)) =
      pure (.text "SELECT " ++ e ++ .text " FROM " ++ t ++ .conjoined " WHERE " (cs.map body) ++
        .headed " " (ps.map (" ", ·))) := by
  rw [assemble_of_and, arrange_eq_self (h.sorted_between e t ps), h.writeFrom_between]
  have hfront : ∀ c ∈ [Clause.mk .column e, ⟨.table, t⟩], c.kind.junction = .and := by
    simp [Kind.junction]
  have hpaging : ∀ c ∈ ps.map (Clause.mk .paging), c.kind.junction = .and := by
    simp [Kind.junction]
  exact List.forall_mem_append.mpr
    ⟨List.forall_mem_append.mpr ⟨hfront, h.junction_eq⟩, hpaging⟩

/-- The first row is asked for in front of the restrictions and written behind them. -/
theorem Restricting.assemble_lookup (h : Restricting cs) (settings : Settings)
    (e t p : Template) :
    Clause.assemble settings ([⟨.column, e⟩, ⟨.table, t⟩, ⟨.paging, p⟩] ++ cs) =
      pure (.text "SELECT " ++ e ++ .text " FROM " ++ t ++ .conjoined " WHERE " (cs.map body) ++
        .headed " " [(" ", p)]) := by
  have hlast : place ⟨.paging, p⟩ (arrange cs) = arrange (cs ++ [⟨.paging, p⟩]) := by
    have hsorted := (h.sorted_between e t [p]).sublist
      (List.sublist_append_right [⟨.column, e⟩, ⟨.table, t⟩] (cs ++ [⟨.paging, p⟩]))
    rw [arrange_eq_self h.sorted, arrange_eq_self hsorted]
    exact place_of_lt fun d hd => (rank_of_condition (h.section_eq d hd)).2.2
  have harrange : arrange ([⟨.column, e⟩, ⟨.table, t⟩, ⟨.paging, p⟩] ++ cs) =
      [⟨.column, e⟩, ⟨.table, t⟩] ++ cs ++ [p].map (Clause.mk .paging) := by
    rw [← arrange_eq_self (h.sorted_between e t [p])]
    simp only [List.map_cons, List.map_nil, List.cons_append, List.nil_append, arrange, hlast]
  have hfront : ∀ d ∈ [Clause.mk .column e, ⟨.table, t⟩, ⟨.paging, p⟩],
      d.kind.junction = .and := by
    simp [Kind.junction]
  have hand := List.forall_mem_append.mpr ⟨hfront, h.junction_eq⟩
  rw [assemble_of_and settings hand, harrange, h.writeFrom_between]
  rfl

end Clause

namespace Restriction

variable (letterCase : LetterCase)

@[simp] lemma section_kind (r : Restriction) : Section.of r.kind = .condition := by
  cases r with
  | member negated m => cases negated <;> rfl
  | _ => rfl

@[simp] lemma junction_kind (r : Restriction) : r.kind.junction = .and := by
  cases r with
  | member negated m => cases negated <;> rfl
  | _ => rfl

/-- The clauses of restrictions have the terms of these for bodies. -/
lemma mapM_clause (rs : List Restriction) :
    rs.mapM (clause letterCase) =
      (rs.mapM (term letterCase)).map (List.zipWith Clause.mk (rs.map kind)) := by
  induction rs with
  | nil => rfl
  | cons r rs ih =>
    rw [List.mapM_cons, List.mapM_cons, ih, clause]
    cases r.term letterCase with
    | error cause => rfl
    | ok t => cases rs.mapM (term letterCase) <;> rfl

variable {letterCase} {rs : List Restriction} {ts : List Template}

lemma terms_ne_nil (h : rs.mapM (term letterCase) = .ok ts) (hne : rs ≠ []) : ts ≠ [] := by
  rintro rfl
  exact hne (List.forall₂_nil_right_iff.mp (mapM_eq_ok_iff.mp h))

lemma map_body_zipWith (h : rs.mapM (term letterCase) = .ok ts) :
    (List.zipWith Clause.mk (rs.map kind) ts).map Clause.body = ts := by
  have hlength := length_of_mapM h
  refine List.ext_getElem (by simp [hlength]) ?_
  simp

lemma restricting_zipWith (h : rs.mapM (term letterCase) = .ok ts)
    (hsorted : rs.Pairwise fun r r' => r.kind.rank ≤ r'.kind.rank) :
    Clause.Restricting (List.zipWith Clause.mk (rs.map kind) ts) := by
  have hlength := length_of_mapM h
  have hkinds : (List.zipWith Clause.mk (rs.map kind) ts).map Clause.kind = rs.map kind := by
    refine List.ext_getElem (by simp [hlength]) ?_
    simp
  have hkind : ∀ c ∈ List.zipWith Clause.mk (rs.map kind) ts, ∃ r : Restriction,
      r.kind = c.kind := by
    intro c hc
    have hmem : c.kind ∈ rs.map kind := hkinds ▸ List.mem_map_of_mem hc
    obtain ⟨r, -, hr⟩ := List.mem_map.mp hmem
    exact ⟨r, hr⟩
  refine ⟨?_, ?_, ?_⟩
  · intro c hc
    obtain ⟨r, hr⟩ := hkind c hc
    rw [← hr, section_kind]
  · intro c hc
    obtain ⟨r, hr⟩ := hkind c hc
    rw [← hr, junction_kind]
  · rw [← List.pairwise_map (f := Clause.kind) (R := fun k l => k.rank ≤ l.rank), hkinds]
    exact List.pairwise_map.mpr hsorted

end Restriction

namespace Restriction

/-- The terms of restrictions with an AND between each two behind a keyword. -/
def chain (letterCase : LetterCase) (keyword : String) (rs : List Restriction) :
    Except Refusal Template := do
  return .conjoined keyword (← rs.mapM (term letterCase))

lemma exists_terms_of_chain {letterCase : LetterCase} {keyword : String} {rs : List Restriction}
    {condition : Template} (h : chain letterCase keyword rs = .ok condition) :
    ∃ ts, rs.mapM (term letterCase) = .ok ts ∧ condition = .conjoined keyword ts := by
  obtain ⟨ts, hts, hcondition⟩ := bind_eq_ok_iff.mp h
  exact ⟨ts, hts, (pure_eq_ok_iff.mp hcondition).symm⟩

end Restriction

namespace Criteria

variable (settings : Settings) (c : Criteria)

lemma restrictions_sorted :
    c.restrictions.Pairwise fun r r' => r.kind.rank ≤ r'.kind.rank := by
  simp [restrictions, List.pairwise_append, List.pairwise_map, Restriction.kind,
    List.pairwise_of_forall]
  exact fun _ _ _ _ => of_decide_eq_true rfl

/-- The clauses of criteria are those of their restrictions. -/
lemma clauses_eq (letterCase : LetterCase) :
    c.clauses = c.restrictions.mapM (Restriction.clause letterCase) := by
  simp [clauses, restrictions, clausesOf]
  rfl

/-- The clauses of criteria are refused with their terms, or made of these. -/
lemma clauses_cases (letterCase : LetterCase) :
    (∃ cause, c.clauses = .error cause ∧
      c.restrictions.mapM (Restriction.term letterCase) = .error cause) ∨
    ∃ cs, c.clauses = .ok cs ∧ Clause.Restricting cs ∧
      c.restrictions.mapM (Restriction.term letterCase) = .ok (cs.map Clause.body) := by
  rw [c.clauses_eq letterCase, Restriction.mapM_clause]
  cases hts : c.restrictions.mapM (Restriction.term letterCase) with
  | error cause => exact Or.inl ⟨cause, rfl, rfl⟩
  | ok ts =>
    refine Or.inr ⟨_, rfl, Restriction.restricting_zipWith hts c.restrictions_sorted, ?_⟩
    rw [Restriction.map_body_zipWith hts]

/-- Criteria that are not empty have terms. -/
lemma terms_ne_nil (hc : c.isEmpty = false) {letterCase : LetterCase} {ts : List Template}
    (h : c.restrictions.mapM (Restriction.term letterCase) = .ok ts) : ts ≠ [] := by
  refine Restriction.terms_ne_nil h ?_
  rw [ne_eq, restrictions_eq_nil_iff, hc]
  exact Bool.false_ne_true

/-- A query that asks for one expression and has no restrictions but those of criteria. -/
def query (expression table : String) (limit : Option Int64) : Query :=
  { columns := [expression], table, filter := c.filter, among := c.among, limit }

lemma query_clauses (expression table : String) (limit : Option Int64) :
    (c.query expression table limit).clauses settings = do
      let expression ← expressionTerm expression
      let table ← tableTerm table
      let restrictions ← c.clauses
      let paging ← pagingTerm "LIMIT" limit
      return [⟨.column, expression⟩, ⟨.table, table⟩] ++ restrictions ++
        paging.map (Clause.mk .paging) := by
  have hoffset : pagingTerm "OFFSET" none = .ok [] := rfl
  simp only [Query.clauses, query, Query.columnClauses, clauses, clausesOf_eq, List.mapM_cons,
    List.mapM_nil, hoffset]
  cases expressionTerm expression with
  | error cause => rfl
  | ok e =>
    cases tableTerm table with
    | error cause => rfl
    | ok t =>
      cases c.filter.mapM Predicate.term with
      | error cause => rfl
      | ok filter =>
        cases c.among.mapM (MemberList.term false) with
        | error cause => rfl
        | ok among =>
          cases pagingTerm "LIMIT" limit with
          | error cause => rfl
          | ok paging =>
            simp only [ok_bind, map_ok, pure_eq_ok, List.map_nil, List.map_cons, List.append_nil,
              List.append_assoc]
            rfl

theorem query_statement_eq (expression table : String) (limit : Option Int64) :
    (c.query expression table limit).statement settings = .checked (do
      let expression ← expressionTerm expression
      let table ← tableTerm table
      let condition ← Restriction.chain settings.letterCase " WHERE " c.restrictions
      let paging ← pagingTerm "LIMIT" limit
      return (.text "SELECT " ++ expression ++ .text " FROM " ++ table ++ condition ++
        .headed " " (paging.map (" ", ·)) : Template).statement) := by
  rw [Query.statement, query_clauses, Restriction.chain]
  cases expressionTerm expression with
  | error cause => rfl
  | ok e =>
    cases tableTerm table with
    | error cause => rfl
    | ok t =>
      obtain ⟨cause, hcs, hts⟩ | ⟨cs, hcs, hrestricting, hts⟩ :=
        c.clauses_cases settings.letterCase
      · rw [hcs, hts]
        rfl
      · rw [hcs, hts]
        cases pagingTerm "LIMIT" limit with
        | error cause => rfl
        | ok ps =>
          change Clause.statement settings ([⟨.column, e⟩, ⟨.table, t⟩] ++ cs ++ ps.map _) = _
          rw [Clause.statement, hrestricting.assemble_query]
          rfl

theorem count_eq (table : String) :
    c.count settings table = .checked (do
      let table ← tableTerm table
      let condition ← Restriction.chain settings.letterCase " WHERE " c.restrictions
      return (.text "SELECT " ++ .text "COUNT(*)" ++ .text " FROM " ++ table ++ condition :
        Template).statement) := by
  rw [count, Restriction.chain]
  cases tableTerm table with
  | error cause => rfl
  | ok t =>
    obtain ⟨cause, hcs, hts⟩ | ⟨cs, hcs, hrestricting, hts⟩ :=
      c.clauses_cases settings.letterCase
    · rw [hcs, hts]
      rfl
    · have hnone := hrestricting.assemble_query settings (.text "COUNT(*)") t []
      rw [List.map_nil, List.append_nil, List.map_nil, Template.headed_nil,
        Template.append_empty] at hnone
      rw [hcs, hts]
      change Clause.statement settings ([⟨.column, .text "COUNT(*)"⟩, ⟨.table, t⟩] ++ cs) = _
      rw [Clause.statement, hnone]
      rfl

theorem lookup_eq (expression table : String) :
    c.lookup settings expression table = .checked (do
      let expression ← expressionTerm expression
      let table ← tableTerm table
      let condition ← Restriction.chain settings.letterCase " WHERE " c.restrictions
      return (.text "SELECT " ++ expression ++ .text " FROM " ++ table ++ condition ++
        .headed " " [(" ", .text "LIMIT 1")] : Template).statement) := by
  rw [lookup, Restriction.chain]
  cases expressionTerm expression with
  | error cause => rfl
  | ok e =>
    cases tableTerm table with
    | error cause => rfl
    | ok t =>
      obtain ⟨cause, hcs, hts⟩ | ⟨cs, hcs, hrestricting, hts⟩ :=
        c.clauses_cases settings.letterCase
      · rw [hcs, hts]
        rfl
      · rw [hcs, hts]
        change Clause.statement settings
          ([⟨.column, e⟩, ⟨.table, t⟩, ⟨.paging, .text "LIMIT 1"⟩] ++ cs) = _
        rw [Clause.statement, hrestricting.assemble_lookup]
        rfl

theorem deleteStatement_eq (table : String) :
    c.deleteStatement settings table = .checked (do
      let table ← Identifier.parse table
      if c.isEmpty then .error (.missingCriteria "DELETE")
      else
        let condition ← Restriction.chain settings.letterCase "WHERE " c.restrictions
        return (.text "DELETE FROM " ++ .identifier table ++ .text " " ++ condition :
          Template).statement) := by
  rw [deleteStatement, Restriction.chain]
  cases Identifier.parse table with
  | error cause => rfl
  | ok i =>
    cases hempty : c.isEmpty with
    | true => rfl
    | false =>
      obtain ⟨cause, hcs, hts⟩ | ⟨cs, hcs, hrestricting, hts⟩ :=
        c.clauses_cases settings.letterCase
      · rw [hcs, hts]
        rfl
      · rw [hcs, hts]
        change (Clause.assemble settings cs >>= fun t => _) = _
        rw [hrestricting.assemble]
        rfl

end Criteria

theorem Record.updateStatement_eq (settings : Settings) (table : String) (r : Record)
    (c : Criteria) :
    r.updateStatement settings table c = .checked (do
      let table ← Identifier.parse table
      if r.isEmpty then .error (.nothingToSet table.sql)
      else if c.isEmpty then .error (.missingCriteria "UPDATE")
      else
        let assignments ← r.entries.mapM assignment
        let condition ← Restriction.chain settings.letterCase "WHERE " c.restrictions
        return (.text "UPDATE " ++ .identifier table ++ .text " SET " ++
          .joined ", " assignments ++ .text " " ++ condition : Template).statement) := by
  rw [updateStatement, Restriction.chain]
  cases Identifier.parse table with
  | error cause => rfl
  | ok i =>
    cases hrecord : r.isEmpty with
    | true => rfl
    | false =>
      cases hempty : c.isEmpty with
      | true => rfl
      | false =>
        cases r.entries.mapM assignment with
        | error cause => rfl
        | ok assignments =>
          obtain ⟨cause, hcs, hts⟩ | ⟨cs, hcs, hrestricting, hts⟩ :=
            c.clauses_cases settings.letterCase
          · rw [hcs, hts]
            rfl
          · rw [hcs, hts]
            change (Clause.assemble settings cs >>= fun t => _) = _
            rw [hrestricting.assemble]
            rfl

section Filtered

variable {settings : Settings} {c : Criteria} {st : Statement}

end Filtered

end TableAccess
