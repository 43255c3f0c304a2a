import TableAccess.Proofs.Outcome
import TableAccess.Proofs.Template
import TableAccess.Statement.Write

/-!
# Clauses of a statement

The clauses of a query are those of each kind in the order of `Clause.Kind.all`, so they are in
place before `Clause.arrange` sees them. `Clause.assemble` then writes them one after the other.
-/

namespace TableAccess
namespace Clause

/-- The kinds in the order of a statement. -/
def Kind.all : List Clause.Kind :=
  [.column, .table, .join, .filter, .orFilter, .among, .notAmong, .like, .orLike, .group,
    .orHaving, .order, .paging]

lemma Kind.mem_all (kind : Clause.Kind) : kind ∈ Kind.all := by
  cases kind <;> decide

lemma place_perm (c : Clause) (cs : List Clause) : (place c cs).Perm (c :: cs) := by
  induction cs with
  | nil => rfl
  | cons d ds ih =>
    rw [place]
    split_ifs
    · rfl
    · exact (ih.cons d).trans (List.Perm.swap c d ds)

theorem arrange_perm (cs : List Clause) : (arrange cs).Perm cs := by
  induction cs with
  | nil => rfl
  | cons c cs ih => exact (place_perm c (arrange cs)).trans (ih.cons c)

lemma mem_arrange {c : Clause} {cs : List Clause} : c ∈ arrange cs ↔ c ∈ cs :=
  (arrange_perm cs).mem_iff

theorem arrange_eq_self {cs : List Clause}
    (h : cs.Pairwise fun c d => c.kind.rank ≤ d.kind.rank) : arrange cs = cs := by
  induction cs with
  | nil => rfl
  | cons c cs ih =>
    obtain ⟨hc, hcs⟩ := List.pairwise_cons.mp h
    rw [arrange, ih hcs]
    cases cs with
    | nil => rfl
    | cons d ds => rw [place, if_pos (hc d (by simp))]

/-- Clauses are assembled unless an alternative opens the WHERE clause against the settings. -/
theorem assemble_eq_ok_iff {settings : Settings} {clauses : List Clause} {t : Template} :
    (assemble settings clauses).outcome = .ok t ↔
      (settings.openingOr = .refused → danglingFrom none (arrange clauses) = []) ∧
        t = writeFrom none (arrange clauses) := by
  rw [assemble]
  cases hd : danglingFrom none (arrange clauses) <;> cases hs : settings.openingOr <;>
    simp [Traced.refuse, eq_comm]

/-- The section that is current behind clauses. -/
def sectionBehind (current : Option Section) : List Clause → Option Section
  | [] => current
  | c :: cs => sectionBehind (some (Section.of c.kind)) cs

theorem writeFrom_append (current : Option Section) (cs ds : List Clause) :
    writeFrom current (cs ++ ds) =
      writeFrom current cs ++ writeFrom (sectionBehind current cs) ds := by
  induction cs generalizing current with
  | nil => rfl
  | cons c cs ih =>
    rw [List.cons_append, writeFrom, writeFrom, ih, Template.append_assoc _ _ (writeFrom _ ds),
      sectionBehind]

end Clause

theorem clausesOf_eq {α : Type} (kind : Clause.Kind) (term : α → Except Refusal Template)
    (parts : List α) :
    clausesOf kind term parts = (parts.mapM term).map (List.map (Clause.mk kind)) := by
  rw [clausesOf]
  induction parts with
  | nil => rfl
  | cons part parts ih =>
    rw [List.mapM_cons, List.mapM_cons, ih]
    cases term part with
    | error e => rfl
    | ok t => cases parts.mapM term <;> rfl

theorem clausesOf_eq_ok_iff {α : Type} {kind : Clause.Kind} {term : α → Except Refusal Template}
    {parts : List α} {cs : List Clause} :
    clausesOf kind term parts = .ok cs ↔
      ∃ bodies, parts.mapM term = .ok bodies ∧ bodies.map (Clause.mk kind) = cs := by
  rw [clausesOf_eq, map_eq_ok_iff]

namespace Query

/-- The terms of one kind that a query has. -/
def terms (settings : Settings) (q : Query) : Clause.Kind → Except Refusal (List Template)
  | .column => if q.columns.isEmpty then .ok [.text "*"] else q.columns.mapM expressionTerm
  | .table => [q.table].mapM tableTerm
  | .join => q.joins.mapM Join.term
  | .filter => q.filter.mapM Predicate.term
  | .orFilter => q.orFilter.mapM Predicate.term
  | .among => q.among.mapM (MemberList.term false)
  | .notAmong => q.notAmong.mapM (MemberList.term true)
  | .like =>
    q.like.mapM fun t => (TextMatch.anywhere t.column t.text).term settings.letterCase
  | .orLike => q.orLike.mapM (TextMatch.term settings.letterCase)
  | .group => q.groupBy.mapM expressionTerm
  | .orHaving => q.orHaving.mapM Predicate.term
  | .order => q.orderBy.mapM expressionTerm
  | .paging => do
    let limit ← pagingTerm "LIMIT" q.limit
    let offset ← pagingTerm "OFFSET" q.offset
    return limit ++ offset

/-- The clauses of one kind that a query has. -/
def clausesOfKind (settings : Settings) (q : Query) (kind : Clause.Kind) :
    Except Refusal (List Clause) :=
  (q.terms settings kind).map (List.map (Clause.mk kind))

lemma columnClauses_eq (settings : Settings) (q : Query) :
    columnClauses q.columns = q.clausesOfKind settings .column := by
  rw [columnClauses, clausesOfKind, terms]
  split_ifs
  · rfl
  · exact clausesOf_eq _ _ _

lemma pagingClauses_eq (settings : Settings) (q : Query) :
    q.clausesOfKind settings .paging = do
      let limit ← pagingTerm "LIMIT" q.limit
      let offset ← pagingTerm "OFFSET" q.offset
      return (limit ++ offset).map (Clause.mk .paging) := by
  rw [clausesOfKind, terms]
  cases pagingTerm "LIMIT" q.limit with
  | error e => rfl
  | ok limit => cases pagingTerm "OFFSET" q.offset <;> rfl

theorem clauses_eq (settings : Settings) (q : Query) :
    q.clauses settings = do
      return (← Clause.Kind.all.mapM (q.clausesOfKind settings)).flatten := by
  simp only [clauses, columnClauses_eq settings, clausesOf_eq]
  simp [Clause.Kind.all, pagingClauses_eq]
  simp [clausesOfKind, terms]

/-- The clauses that terms make, in the order of their kinds. -/
def clausesWith (body : Clause.Kind → List Template) : List Clause :=
  Clause.Kind.all.flatMap fun kind => (body kind).map (Clause.mk kind)

theorem clauses_eq_ok_iff {settings : Settings} {q : Query} {cs : List Clause} :
    q.clauses settings = .ok cs ↔
      ∃ body : Clause.Kind → List Template,
        (∀ kind, q.terms settings kind = .ok (body kind)) ∧ clausesWith body = cs := by
  rw [clauses_eq, bind_eq_ok_iff]
  constructor
  · rintro ⟨parts, hparts, h⟩
    obtain ⟨part, hpart, rfl⟩ := mapM_eq_ok_iff_exists.mp hparts
    rw [pure_eq_ok_iff] at h
    choose body hbody hmade using
      fun kind : Clause.Kind => map_eq_ok_iff.mp (hpart kind kind.mem_all)
    exact ⟨body, hbody, by simp only [← h, clausesWith, List.flatMap_def, hmade]⟩
  · rintro ⟨body, hbody, rfl⟩
    refine ⟨Clause.Kind.all.map fun kind => (body kind).map (Clause.mk kind),
      mapM_eq_ok_iff_exists.mpr ⟨_, ?_, rfl⟩, ?_⟩
    · exact fun kind _ => map_eq_ok_iff.mpr ⟨_, hbody kind, rfl⟩
    · rw [pure_eq_ok_iff, clausesWith, List.flatMap_def]

/-- Clauses that are listed kind by kind are in place. -/
theorem arrange_clausesWith (body : Clause.Kind → List Template) :
    Clause.arrange (clausesWith body) = clausesWith body := by
  have hkind : ∀ kind, ∀ c ∈ (body kind).map (Clause.mk kind), c.kind = kind := by
    intro kind c hc
    obtain ⟨t, -, rfl⟩ := List.mem_map.mp hc
    rfl
  apply Clause.arrange_eq_self
  rw [clausesWith, List.pairwise_flatMap]
  constructor
  · intro kind _
    refine List.pairwise_of_forall_mem_list ?_
    intro c hc d hd
    exact Nat.le_of_eq (by rw [hkind kind c hc, hkind kind d hd])
  · have hall : Clause.Kind.all.Pairwise fun k l => k.rank ≤ l.rank := by decide
    refine hall.imp ?_
    intro k l hkl c hc d hd
    rw [hkind k c hc, hkind l d hd]
    exact hkl

end Query
end TableAccess
