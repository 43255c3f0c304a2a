import TableAccess.Proofs.Alike
import TableAccess.Proofs.Operation

/-!
# Values do not show in the text

Operations that differ in their values only are both refused or have statements with the same text
and the same number of parameters.
-/

namespace TableAccess
namespace Clause

/-- Clauses of one kind with alike bodies. -/
structure Alike (c d : Clause) : Prop where
  kind : c.kind = d.kind
  body : c.body.Alike d.body

lemma forall₂_place {c d : Clause} (hcd : c.Alike d) {cs ds : List Clause}
    (h : List.Forall₂ Alike cs ds) : List.Forall₂ Alike (place c cs) (place d ds) := by
  induction h with
  | nil => exact .cons hcd .nil
  | cons hhead hrest ih =>
    rw [place, place, hcd.kind, hhead.kind]
    split_ifs
    · exact .cons hcd (.cons hhead hrest)
    · exact .cons hhead ih

lemma forall₂_arrange {cs ds : List Clause} (h : List.Forall₂ Alike cs ds) :
    List.Forall₂ Alike (arrange cs) (arrange ds) := by
  induction h with
  | nil => exact .nil
  | cons hhead _ ih => exact forall₂_place hhead ih

lemma alike_writeFrom {cs ds : List Clause} (h : List.Forall₂ Alike cs ds)
    (current : Option Section) : (writeFrom current cs).Alike (writeFrom current ds) := by
  induction h generalizing current with
  | nil => exact .refl _
  | cons hhead _ ih =>
    rw [writeFrom, writeFrom, hhead.kind]
    exact ((Template.Alike.refl _).append hhead.body).append (ih _)

lemma danglingFrom_of_alike {cs ds : List Clause} (h : List.Forall₂ Alike cs ds)
    (current : Option Section) : danglingFrom current cs = danglingFrom current ds := by
  induction h generalizing current with
  | nil => rfl
  | cons hhead _ ih => rw [danglingFrom, danglingFrom, hhead.kind, ih]

theorem assemble_related (settings : Settings) {cs ds : List Clause}
    (h : List.Forall₂ Alike cs ds) :
    Related Template.Alike (assemble settings cs).outcome (assemble settings ds).outcome := by
  have harrange := forall₂_arrange h
  rw [assemble, assemble, danglingFrom_of_alike harrange]
  cases danglingFrom none (arrange ds) <;> cases settings.openingOr <;>
    first | exact .ok (alike_writeFrom harrange none) | exact .error

lemma forall₂_mk (kind : Kind) {ts us : List Template} (h : List.Forall₂ Template.Alike ts us) :
    List.Forall₂ Alike (ts.map (Clause.mk kind)) (us.map (Clause.mk kind)) := by
  rw [List.forall₂_map_left_iff, List.forall₂_map_right_iff]
  exact h.imp fun _ _ htu => ⟨rfl, htu⟩

lemma forall₂_flatten {css dss : List (List Clause)}
    (h : List.Forall₂ (List.Forall₂ Alike) css dss) :
    List.Forall₂ Alike css.flatten dss.flatten := by
  induction h with
  | nil => exact .nil
  | cons hhead _ ih => exact List.rel_append hhead ih

end Clause

section Clauses

lemma mapM_eq_related {ε α β : Type} {R : β → β → Prop} (hR : ∀ b, R b b) {as bs : List α}
    (h : as = bs) (f : α → Except ε β) :
    Related (List.Forall₂ R) (as.mapM f) (bs.mapM f) := by
  rw [h]
  exact .refl (fun bs => List.forall₂_same.mpr fun b _ => hR b) _

theorem Query.terms_related {q r : Query} (h : q.Alike r) (settings : Settings)
    (kind : Clause.Kind) :
    Related (List.Forall₂ Template.Alike) (q.terms settings kind) (r.terms settings kind) := by
  cases kind with
  | column =>
    rw [terms, terms, h.columns]
    exact .refl (fun ts => List.forall₂_same.mpr fun t _ => .refl t) _
  | table => exact mapM_eq_related .refl (by rw [h.table]) _
  | join => exact mapM_eq_related .refl h.joins _
  | filter => exact .mapM h.filter fun _ _ => Predicate.term_related
  | orFilter => exact .mapM h.orFilter fun _ _ => Predicate.term_related
  | among => exact .mapM h.among fun _ _ hmn => MemberList.term_related hmn false
  | notAmong => exact .mapM h.notAmong fun _ _ hmn => MemberList.term_related hmn true
  | like =>
    -- the side of a term is replaced before its pattern is made
    refine .mapM h.like ?_
    intro s t hst
    have hanywhere : (TextMatch.anywhere s.column s.text).Alike (.anywhere t.column t.text) := hst
    exact TextMatch.term_related hanywhere _
  | orLike => exact .mapM h.orLike fun _ _ hst => TextMatch.term_related hst _
  | group => exact mapM_eq_related .refl h.groupBy _
  | orHaving => exact .mapM h.orHaving fun _ _ => Predicate.term_related
  | order => exact mapM_eq_related .refl h.orderBy _
  | paging =>
    refine (pagingTerm_related h.limit "LIMIT").bind ?_
    intro ts us hlimit
    refine (pagingTerm_related h.offset "OFFSET").bind ?_
    intro ts' us' hoffset
    exact .ok (List.rel_append hlimit hoffset)

theorem Query.clauses_related {q r : Query} (h : q.Alike r) (settings : Settings) :
    Related (List.Forall₂ Clause.Alike) (q.clauses settings) (r.clauses settings) := by
  rw [clauses_eq, clauses_eq]
  have hkinds : List.Forall₂ (· = ·) Clause.Kind.all Clause.Kind.all :=
    List.forall₂_same.mpr fun _ _ => rfl
  refine (Related.mapM (S := List.Forall₂ Clause.Alike) hkinds ?_).bind ?_
  · rintro kind _ rfl
    exact (terms_related h settings kind).map fun _ _ => Clause.forall₂_mk kind
  · intro css dss hcss
    exact .ok (Clause.forall₂_flatten hcss)

lemma clausesOf_related {α : Type} {R : α → α → Prop} {term : α → Except Refusal Template}
    (hterm : ∀ a b, R a b → Related Template.Alike (term a) (term b)) {as bs : List α}
    (h : List.Forall₂ R as bs) (kind : Clause.Kind) :
    Related (List.Forall₂ Clause.Alike) (clausesOf kind term as) (clausesOf kind term bs) := by
  rw [clausesOf_eq, clausesOf_eq]
  exact (Related.mapM h hterm).map fun _ _ => Clause.forall₂_mk kind

theorem Criteria.clauses_related {c d : Criteria} (h : c.Alike d) :
    Related (List.Forall₂ Clause.Alike) c.clauses d.clauses := by
  have hfilter : Related (List.Forall₂ Clause.Alike) (clausesOf .filter Predicate.term c.filter)
      (clausesOf .filter Predicate.term d.filter) :=
    clausesOf_related (R := Predicate.Alike) (fun _ _ => Predicate.term_related) h.filter _
  have hamong : Related (List.Forall₂ Clause.Alike)
      (clausesOf .among (MemberList.term false) c.among)
      (clausesOf .among (MemberList.term false) d.among) :=
    clausesOf_related (R := MemberList.Alike) (fun _ _ hmn => MemberList.term_related hmn false) h.among _
  rw [clauses, clauses]
  refine hfilter.bind ?_
  intro cs ds hcs
  refine hamong.bind ?_
  intro cs' ds' hcs'
  exact .ok (List.rel_append hcs hcs')

lemma Criteria.isEmpty_of_alike {c d : Criteria} (h : c.Alike d) : c.isEmpty = d.isEmpty := by
  obtain ⟨filter, among⟩ := c
  obtain ⟨others, more⟩ := d
  obtain ⟨hfilter, hamong⟩ := h
  cases hfilter <;> cases hamong <;> rfl

end Clauses

namespace Record

variable {r s : Record}

lemma isEmpty_of_alike (h : r.Alike s) : r.isEmpty = s.isEmpty := by
  obtain ⟨entries⟩ := r
  obtain ⟨others⟩ := s
  cases entries <;> cases others <;> first | rfl | exact absurd h (by simp [Alike, columns, Entries.keys])

lemma length_values_of_alike (h : r.Alike s) : r.values.length = s.values.length := by
  have hlength := congrArg List.length h
  simpa [columns, Entries.keys, values] using hlength

lemma contains_of_alike (h : r.Alike s) (column : String) :
    r.contains column = s.contains column := by
  rw [Bool.eq_iff_iff, contains_iff, contains_iff, h]

lemma forall₂_entries (h : r.Alike s) :
    List.Forall₂ (fun entry other => entry.1 = other.1) r.entries s.entries := by
  have hkeys : List.Forall₂ (· = ·) r.columns s.columns := by
    rw [h]
    exact List.forall₂_same.mpr fun _ _ => rfl
  rw [columns, columns, Entries.keys, Entries.keys] at hkeys
  rwa [List.forall₂_map_left_iff, List.forall₂_map_right_iff] at hkeys

lemma assignment_related {entry other : String × Value} (h : entry.1 = other.1) :
    Related Template.Alike (assignment entry) (assignment other) := by
  obtain ⟨column, v⟩ := entry
  obtain ⟨another, w⟩ := other
  obtain rfl : column = another := h
  refine Related.bind_same (Identifier.parse column) ?_
  intro i
  exact .ok (.append (.refl _) (Template.alike_slot v w))

theorem generated_eq_of_alike (h : r.Alike s) (settings : Settings) (table : Identifier)
    (identifier : Option String) :
    r.generated settings table identifier = s.generated settings table identifier := by
  cases identifier with
  | none => rfl
  | some column => rw [generated, generated, contains_of_alike h]

lemma alike_insertion {vs ws : List Value} (h : vs.length = ws.length) (columns : List Identifier)
    (generated : Option Generated) :
    (insertion columns vs generated).Alike (insertion columns ws generated) := by
  have hslots := List.rel_append (Template.alike_map_slot h)
    (List.forall₂_same.mpr fun t _ => Template.Alike.refl t :
      List.Forall₂ Template.Alike (generated.toList.map fun g => .text g.2)
        (generated.toList.map fun g => .text g.2))
  exact ((Template.Alike.refl _).append (.joined hslots _)).append (.refl _)

theorem insertTemplate_related (h : r.Alike s) (settings : Settings) (table : String)
    (identifier : Option String) :
    Related Template.Alike (r.insertTemplate settings table identifier).outcome
      (s.insertTemplate settings table identifier).outcome := by
  rw [insertTemplate, insertTemplate]
  refine Traced.related_bind_same _ ?_
  intro i
  rw [generated_eq_of_alike h, isEmpty_of_alike h]
  refine Traced.related_bind_same _ ?_
  intro generated
  by_cases hempty : (s.isEmpty && generated.isNone) = true
  · simp only [hempty, if_true]
    exact .ok (.refl _)
  · simp only [hempty]
    rw [show r.columns = s.columns from h]
    refine Traced.related_bind_same _ ?_
    intro columns
    exact .ok (.append (.refl _) (alike_insertion (length_values_of_alike h) columns generated))

end Record

/-- Statements with the same text and the same number of parameters. -/
def Statement.SameText (s t : Statement) : Prop :=
  s.sql = t.sql ∧ s.params.length = t.params.length

lemma Clause.statement_related (settings : Settings) {cs ds : List Clause}
    (h : List.Forall₂ Clause.Alike cs ds) :
    Related Statement.SameText (Clause.statement settings cs).outcome
      (Clause.statement settings ds).outcome := by
  refine Traced.related_bind (assemble_related settings h) ?_
  intro t u htu
  exact .ok htu.statement

theorem Query.statement_related {q r : Query} (h : q.Alike r) (settings : Settings) :
    Related Statement.SameText (q.statement settings).outcome (r.statement settings).outcome := by
  refine Traced.related_bind (Traced.related_checked (clauses_related h settings)) ?_
  exact fun _ _ => Clause.statement_related settings

namespace Criteria

variable {c d : Criteria}

theorem count_related (h : c.Alike d) (settings : Settings) (table : String) :
    Related Statement.SameText (c.count settings table).outcome
      (d.count settings table).outcome := by
  refine Traced.related_bind_same _ ?_
  intro u
  refine Traced.related_bind (Traced.related_checked (clauses_related h)) ?_
  intro cs ds hcs
  refine Clause.statement_related settings (List.rel_append ?_ hcs)
  exact List.forall₂_same.mpr fun _ _ => ⟨rfl, .refl _⟩

theorem lookup_related (h : c.Alike d) (settings : Settings) (expression table : String) :
    Related Statement.SameText (c.lookup settings expression table).outcome
      (d.lookup settings expression table).outcome := by
  refine Traced.related_bind_same _ ?_
  intro e
  refine Traced.related_bind_same _ ?_
  intro u
  refine Traced.related_bind (Traced.related_checked (clauses_related h)) ?_
  intro cs ds hcs
  refine Clause.statement_related settings (List.rel_append ?_ hcs)
  exact List.forall₂_same.mpr fun _ _ => ⟨rfl, .refl _⟩

theorem deleteStatement_related (h : c.Alike d) (settings : Settings) (table : String) :
    Related Statement.SameText (c.deleteStatement settings table).outcome
      (d.deleteStatement settings table).outcome := by
  refine Traced.related_bind_same _ ?_
  intro i
  rw [isEmpty_of_alike h]
  split_ifs
  · exact .error
  · refine Traced.related_bind (Traced.related_checked (clauses_related h)) ?_
    intro cs ds hcs
    refine Traced.related_bind (Clause.assemble_related settings hcs) ?_
    intro t u htu
    exact .ok ((Template.Alike.refl _).append htu).statement

end Criteria

namespace Record

variable {r s : Record}

theorem insertStatement_related (h : r.Alike s) (settings : Settings) (table : String)
    (identifier : Option String) :
    Related Statement.SameText (r.insertStatement settings table identifier).outcome
      (s.insertStatement settings table identifier).outcome := by
  refine Traced.related_bind (insertTemplate_related h settings table identifier) ?_
  intro t u htu
  exact .ok htu.statement

theorem insertReturning_related (h : r.Alike s) (settings : Settings) (table identifier : String) :
    Related Statement.SameText (r.insertReturning settings table identifier).outcome
      (s.insertReturning settings table identifier).outcome := by
  refine Traced.related_bind_same _ ?_
  intro i
  refine Traced.related_bind (insertTemplate_related h settings table (some identifier)) ?_
  intro t u htu
  exact .ok ((htu.append (.refl _)).append (.refl _)).statement

theorem updateStatement_related (h : r.Alike s) {c d : Criteria} (hcd : c.Alike d)
    (settings : Settings) (table : String) :
    Related Statement.SameText (r.updateStatement settings table c).outcome
      (s.updateStatement settings table d).outcome := by
  refine Traced.related_bind_same _ ?_
  intro i
  rw [isEmpty_of_alike h, Criteria.isEmpty_of_alike hcd]
  split_ifs
  · exact .error
  · exact .error
  · have hassignments := Related.mapM (forall₂_entries h) fun _ _ => assignment_related
    refine Traced.related_bind (Traced.related_checked hassignments) ?_
    intro ts us htus
    refine Traced.related_bind (Traced.related_checked (Criteria.clauses_related hcd)) ?_
    intro cs ds hcs
    refine Traced.related_bind (Clause.assemble_related settings hcs) ?_
    intro t u htu
    have hfront := (Template.Alike.refl (.text "UPDATE " ++ .identifier i ++ .text " SET ")).append
      (Template.Alike.joined htus ", ")
    exact .ok ((hfront.append (.refl _)).append htu).statement

end Record

namespace Operation

/-- Operations that agree in everything but values. -/
inductive Alike : Operation → Operation → Prop
  | select {q r : Query} (h : q.Alike r) : Alike (.select q) (.select r)
  | count {table : String} {c d : Criteria} (h : c.Alike d) :
    Alike (.count table c) (.count table d)
  | lookup {expression table : String} {c d : Criteria} (h : c.Alike d) :
    Alike (.lookup expression table c) (.lookup expression table d)
  | insert {table : String} {r s : Record} {identifier : Option String} (h : r.Alike s) :
    Alike (.insert table r identifier) (.insert table s identifier)
  | insertReturning {table : String} {r s : Record} {identifier : String} (h : r.Alike s) :
    Alike (.insertReturning table r identifier) (.insertReturning table s identifier)
  | update {table : String} {r s : Record} {c d : Criteria} (h : r.Alike s) (hcd : c.Alike d) :
    Alike (.update table r c) (.update table s d)
  | delete {table : String} {c d : Criteria} (h : c.Alike d) :
    Alike (.delete table c) (.delete table d)

/-- Operations that differ in their values only are both refused, or their statements have the same
text and the same number of parameters. -/
theorem sameText_of_alike {a b : Operation} (h : a.Alike b) (settings : Settings) :
    Related Statement.SameText (a.statement settings).outcome (b.statement settings).outcome := by
  cases h with
  | select h => exact Query.statement_related h settings
  | count h => exact Criteria.count_related h settings _
  | lookup h => exact Criteria.lookup_related h settings _ _
  | insert h => exact Record.insertStatement_related h settings _ _
  | insertReturning h => exact Record.insertReturning_related h settings _ _
  | update h hcd => exact Record.updateStatement_related h hcd settings _
  | delete h => exact Criteria.deleteStatement_related h settings _

/-- A query with a value in each of several parts. -/
def searching (v w : Value) (text : String) (limit : Int64) : Operation :=
  .select {
    table := "t"
    filter := [⟨"a", .eq, v⟩]
    among := [⟨"b", [v, w]⟩]
    like := [⟨"c", text, .both⟩]
    limit := some limit }

theorem sameText_of_alike_searching :
    ((searching (.int 1) .null "x" 5).statement {}).outcome.toOption.map Statement.sql =
        some "SELECT * FROM t WHERE a = $1 AND b IN ($2, $3) AND c ILIKE $4 LIMIT $5" ∧
      Related Statement.SameText ((searching (.int 1) .null "x" 5).statement {}).outcome
        ((searching (.text "1 OR 1=1") (.text "$9") "'; --" 80).statement {}).outcome := by
  refine ⟨by decide +kernel, sameText_of_alike (.select ?_) {}⟩
  have hlimit : PagingAlike (some 5) (some 80) := ⟨by decide, by decide⟩
  exact ⟨rfl, rfl, rfl, .cons ⟨rfl, rfl, rfl⟩ .nil, .nil, .cons ⟨rfl, rfl⟩ .nil, .nil,
    .cons rfl .nil, .nil, rfl, .nil, rfl, hlimit, ⟨Iff.rfl, Iff.rfl⟩⟩

end Operation
end TableAccess
