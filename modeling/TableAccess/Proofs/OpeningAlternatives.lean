import TableAccess.Proofs.ConditionMeaning
import TableAccess.Proofs.Restriction

/-!
# Alternatives that open the WHERE clause

The OR of a term has nothing to attach to if the term is the first of the WHERE clause. Settings
either drop it and warn or refuse the query; `Query.refusing_only_removes` says that this is all
that they decide. Since the terms of the WHERE clause stand together, only the first of them can
be such a term (`Query.danglingFrom_clausesWith`).
-/

namespace TableAccess
namespace Clause

lemma danglingFrom_append (current : Option Section) (cs ds : List Clause) :
    danglingFrom current (cs ++ ds) =
      danglingFrom current cs ++ danglingFrom (sectionBehind current cs) ds := by
  induction cs generalizing current with
  | nil => rfl
  | cons c cs ih =>
    rw [List.cons_append, danglingFrom, danglingFrom, sectionBehind, ih]
    split_ifs <;> rfl

/-- Outside of the WHERE clause an OR is no matter. -/
lemma danglingFrom_of_ne_condition {cs : List Clause}
    (hcs : ∀ c ∈ cs, Section.of c.kind ≠ .condition) (current : Option Section) :
    danglingFrom current cs = [] := by
  induction cs generalizing current with
  | nil => rfl
  | cons c cs ih =>
    obtain ⟨hc, hrest⟩ := List.forall_mem_cons.mp hcs
    have hdangles : dangles current c.kind = false := by simp [dangles, hc]
    simp [danglingFrom, hdangles, ih hrest]

lemma sectionBehind_ne_condition {current : Option Section} (hcurrent : current ≠ some .condition)
    {cs : List Clause} (hcs : ∀ c ∈ cs, Section.of c.kind ≠ .condition) :
    sectionBehind current cs ≠ some .condition := by
  induction cs generalizing current with
  | nil => exact hcurrent
  | cons c cs ih =>
    obtain ⟨hc, hrest⟩ := List.forall_mem_cons.mp hcs
    exact ih (by simpa using hc) hrest

/-- Behind a term of the WHERE clause every OR has something to attach to. -/
lemma danglingFrom_continued {cs : List Clause} (hcs : ∀ c ∈ cs, Section.of c.kind = .condition) :
    danglingFrom (some .condition) cs = [] := by
  induction cs with
  | nil => rfl
  | cons c cs ih =>
    obtain ⟨hc, hrest⟩ := List.forall_mem_cons.mp hcs
    simp [danglingFrom, dangles, hc, ih hrest]

/-- The kind of a clause that an OR attaches. -/
def alternative? (c : Clause) : Option Clause.Kind :=
  if c.kind.junction = .or then some c.kind else none

lemma danglingFrom_of_condition {current : Option Section} (hcurrent : current ≠ some .condition)
    {cs : List Clause} (hcs : ∀ c ∈ cs, Section.of c.kind = .condition) :
    danglingFrom current cs = (cs.head?.bind alternative?).toList := by
  cases cs with
  | nil => rfl
  | cons c cs =>
    obtain ⟨hc, hrest⟩ := List.forall_mem_cons.mp hcs
    rw [danglingFrom, hc, danglingFrom_continued hrest, List.head?_cons, Option.bind_some,
      alternative?]
    by_cases hor : c.kind.junction = .or
    · simp [dangles, hc, hor, hcurrent]
    · simp [dangles, hor]

end Clause

namespace Query

/-- The kind of the first term of the WHERE clause if that is an alternative. -/
def opening? (q : Query) : Option Clause.Kind :=
  q.conditions.head?.bind fun link => if link.1 = .or then some link.2.kind else none

section Terms

variable {settings : Settings} {q : Query} {body : Clause.Kind → List Template}

/-- The clauses of the conditions are those of the terms, in order. -/
lemma map_kind_conditions (hbody : ∀ kind, q.terms settings kind = .ok (body kind)) :
    (Section.condition.clauses body).map (fun c => (c.kind.junction, c.kind)) =
      q.conditions.map fun link => (link.1, link.2.kind) := by
  simp [Section.clauses, Section.kinds_condition, conditions, Operand.listed, Function.comp_def,
    List.map_const', Clause.Kind.junction, length_of_mapM (hbody .filter),
    length_of_mapM (hbody .orFilter), length_of_mapM (hbody .among),
    length_of_mapM (hbody .notAmong), length_of_mapM (hbody .like), length_of_mapM (hbody .orLike)]

lemma head?_conditions (hbody : ∀ kind, q.terms settings kind = .ok (body kind)) :
    (Section.condition.clauses body).head?.bind Clause.alternative? = q.opening? := by
  have h := congrArg List.head? (map_kind_conditions hbody)
  rw [List.head?_map, List.head?_map] at h
  have hbind := congrArg (Option.bind · fun link : Junction × Clause.Kind =>
    if link.1 = .or then some link.2 else none) h
  simp only [Option.bind_map] at hbind
  exact hbind

lemma kind_mem_of_mem {kinds : List Clause.Kind} {c : Clause}
    (h : c ∈ kinds.flatMap fun kind => (body kind).map (Clause.mk kind)) : c.kind ∈ kinds := by
  obtain ⟨kind, hkind, hc⟩ := List.mem_flatMap.mp h
  obtain ⟨t, -, rfl⟩ := List.mem_map.mp hc
  exact hkind

/-- At most one term of a query dangles, and it is the first one of the WHERE clause. -/
theorem danglingFrom_clausesWith (hbody : ∀ kind, q.terms settings kind = .ok (body kind)) :
    Clause.danglingFrom none (clausesWith body) = q.opening?.toList := by
  have hall : Clause.Kind.all = [.column, .table, .join] ++ Section.condition.kinds ++
      [.group, .orHaving, .order, .paging] := by decide
  have hbefore : ∀ kind ∈ [Clause.Kind.column, .table, .join],
      Section.of kind ≠ .condition := by decide
  have hbehind : ∀ kind ∈ [Clause.Kind.group, .orHaving, .order, .paging],
      Section.of kind ≠ .condition := by decide
  rw [clausesWith, hall, List.flatMap_append, List.flatMap_append, List.append_assoc,
    Clause.danglingFrom_append,
    Clause.danglingFrom_of_ne_condition fun c hc => hbefore _ (kind_mem_of_mem hc),
    List.nil_append, Clause.danglingFrom_append,
    Clause.danglingFrom_of_ne_condition fun c hc => hbehind _ (kind_mem_of_mem hc),
    List.append_nil, ← head?_conditions hbody]
  refine Clause.danglingFrom_of_condition ?_ Section.of_mem_clauses
  exact Clause.sectionBehind_ne_condition (by simp) fun c hc => hbefore _ (kind_mem_of_mem hc)

end Terms

section Statement

variable {settings : Settings} {q : Query}

lemma clauses_eq_of_letterCase {other : Settings} (h : settings.letterCase = other.letterCase) :
    q.clauses settings = q.clauses other := by
  simp only [clauses, h]

lemma statement_of_clauses_error {cause : Refusal} (h : q.clauses settings = .error cause) :
    q.statement settings = .refuse cause := by
  rw [statement, h]
  rfl

/-- The settings come into play for the term that opens the WHERE clause, and only if it is an
alternative. -/
theorem statement_of_clauses {cs : List Clause} (hcs : q.clauses settings = .ok cs) :
    q.statement settings =
      match q.opening?, settings.openingOr with
      | some kind, .refused => .refuse (.openingOr kind.name)
      | opening, _ => ⟨opening.toList.map fun kind => .openingOr kind.name,
          .ok (Clause.writeFrom none cs).statement⟩ := by
  obtain ⟨body, hbody, rfl⟩ := clauses_eq_ok_iff.mp hcs
  rw [statement, hcs]
  change Clause.statement settings (clausesWith body) = _
  rw [Clause.statement, Clause.assemble, arrange_clausesWith, danglingFrom_clausesWith hbody]
  cases q.opening? <;> cases settings.openingOr <;> rfl

end Statement

/-- The first term of the WHERE clause is an alternative: a predicate without a filter in front of
it, or a text match without any other term. -/
def OpensWithOr (q : Query) : Prop :=
  q.filter = [] ∧ q.orFilter ≠ [] ∨
    q.filter = [] ∧ q.orFilter = [] ∧ q.among = [] ∧ q.notAmong = [] ∧ q.like = [] ∧ q.orLike ≠ []

lemma head?_listed (j : Junction) (kind : Clause.Kind) (count : Nat) :
    (Operand.listed j kind count).head? = if count = 0 then none else some (j, ⟨kind, 0⟩) := by
  cases count with
  | zero => rfl
  | succ count => simp [Operand.listed, List.range_succ_eq_map]

theorem opensWithOr_iff {q : Query} :
    q.OpensWithOr ↔ ∃ t, q.conditions.head? = some (.or, t) := by
  simp only [conditions, List.head?_append, head?_listed, List.length_eq_zero_iff, OpensWithOr]
  by_cases hfilter : q.filter = []
  case neg => simp [hfilter]
  by_cases horFilter : q.orFilter = []
  case neg => simp [hfilter, horFilter]
  by_cases hamong : q.among = []
  case neg => simp [hfilter, horFilter, hamong]
  by_cases hnotAmong : q.notAmong = []
  case neg => simp [hfilter, horFilter, hamong, hnotAmong]
  by_cases hlike : q.like = []
  case neg => simp [hfilter, horFilter, hamong, hnotAmong, hlike]
  simp [hfilter, horFilter, hamong, hnotAmong, hlike]

lemma opening?_eq_some_iff {q : Query} {kind : Clause.Kind} :
    q.opening? = some kind ↔ ∃ t, q.conditions.head? = some (.or, t) ∧ t.kind = kind := by
  simp [opening?, Option.bind_eq_some_iff]

lemma opening?_eq_none_iff {q : Query} : q.opening? = none ↔ ¬q.OpensWithOr := by
  rw [opensWithOr_iff, ← not_iff_not, not_not, ← ne_eq, Option.ne_none_iff_exists']
  simp only [opening?_eq_some_iff]
  exact ⟨fun ⟨_, t, ht, _⟩ => ⟨t, ht⟩, fun ⟨t, ht⟩ => ⟨_, t, ht, rfl⟩⟩

/-- Settings that refuse what others drop only remove queries. A query that is refused anyway is
refused for the same cause. Of the others those are removed whose first term of the WHERE clause is
an alternative, and these are the ones that are warned of, once; a query that is kept has the same
statement. Whatever is selected by criteria does not depend on it. -/
theorem refusing_only_removes (settings : Settings) :
    let dropping : Settings := { settings with openingOr := .dropped }
    let refusing : Settings := { settings with openingOr := .refused }
    (∀ q : Query,
      (∀ e, (q.statement dropping).outcome = .error e →
        (q.statement refusing).outcome = .error e ∧ (q.statement dropping).events = []) ∧
      ∀ st, (q.statement dropping).outcome = .ok st →
        (q.OpensWithOr → ∃ t, q.conditions.head? = some (.or, t) ∧
          (q.statement refusing).outcome = .error (.invalid (.openingOr t.kind.name)) ∧
          ∃ event, (q.statement dropping).events = [event] ∧ event.level = .warn) ∧
        (¬q.OpensWithOr → (∀ t, q.conditions.head? ≠ some (.or, t)) ∧
          (q.statement refusing).outcome = .ok st ∧ (q.statement dropping).events = [])) ∧
    ∀ (c : Criteria) (table : String), c.count dropping table = c.count refusing table ∧
      (∀ expression, c.lookup dropping expression table = c.lookup refusing expression table) ∧
      c.deleteStatement dropping table = c.deleteStatement refusing table ∧
      ∀ r : Record, r.updateStatement dropping table c = r.updateStatement refusing table c := by
  intro dropping refusing
  refine ⟨fun q => ?_, fun c table => ⟨?_, fun expression => ?_, ?_, fun r => ?_⟩⟩
  · have hsame : q.clauses dropping = q.clauses refusing := clauses_eq_of_letterCase rfl
    cases hcs : q.clauses dropping with
    | error cause =>
      rw [statement_of_clauses_error hcs, statement_of_clauses_error (hsame ▸ hcs)]
      refine ⟨fun e he => ⟨he, rfl⟩, ?_⟩
      rintro st ⟨⟩
    | ok cs =>
      rw [statement_of_clauses hcs, statement_of_clauses (hsame ▸ hcs)]
      cases hopening : q.opening? with
      | none =>
        have hkept : ¬q.OpensWithOr := opening?_eq_none_iff.mp hopening
        refine ⟨by rintro e ⟨⟩, ?_⟩
        rintro st ⟨⟩
        refine ⟨fun h => absurd h hkept, fun _ => ⟨?_, rfl, rfl⟩⟩
        exact fun t ht => hkept (opensWithOr_iff.mpr ⟨t, ht⟩)
      | some kind =>
        obtain ⟨t, ht, rfl⟩ := opening?_eq_some_iff.mp hopening
        have hremoved : q.OpensWithOr := opensWithOr_iff.mpr ⟨t, ht⟩
        refine ⟨by rintro e ⟨⟩, ?_⟩
        rintro st ⟨⟩
        exact ⟨fun _ => ⟨t, ht, rfl, _, rfl, rfl⟩, fun h => absurd hremoved h⟩
  · rw [Criteria.count_eq, Criteria.count_eq]
  · rw [Criteria.lookup_eq, Criteria.lookup_eq]
  · rw [Criteria.deleteStatement_eq, Criteria.deleteStatement_eq]
  · rw [Record.updateStatement_eq, Record.updateStatement_eq]

/-- A query whose alternatives stand behind a list, and one that has no other terms. -/
def searches (among : List MemberList) : Query where
  table := "t"
  among := among
  orLike := [⟨"a", "x", .both⟩]
  orHaving := [⟨"n", .gt, .int 1⟩]

/-- The alternatives of groups are no matter. -/
theorem refusing_only_removes_searches :
    let refusing : Settings := { openingOr := .refused }
    (∃ st, ((searches []).statement {}).outcome = .ok st ∧
      st.sql = "SELECT * FROM t WHERE a ILIKE $1 HAVING n > $2" ∧
      ((searches []).statement refusing).outcome = .error (.invalid (.openingOr "OrLike")) ∧
      ∃ event, ((searches []).statement {}).events = [event] ∧ event.level = .warn) ∧
    ∃ st, ((searches [⟨"b", []⟩]).statement {}).outcome = .ok st ∧
      st.sql = "SELECT * FROM t WHERE 1=0 OR a ILIKE $1 HAVING n > $2" ∧
      ((searches [⟨"b", []⟩]).statement refusing).outcome = .ok st ∧
      ((searches [⟨"b", []⟩]).statement {}).events = [] := by
  obtain ⟨hqueries, -⟩ := refusing_only_removes {}
  constructor
  · refine Operation.exists_statement_of_sql (by decide +kernel) ?_
    intro st hst
    obtain ⟨hremoved, -⟩ := (hqueries _).2 st hst
    obtain ⟨t, ht, hrefused, hwarned⟩ := hremoved (by simp [OpensWithOr, searches])
    obtain rfl : t = ⟨.orLike, 0⟩ := by simpa [searches, conditions, Operand.listed] using ht.symm
    exact ⟨hrefused, hwarned⟩
  · refine Operation.exists_statement_of_sql (by decide +kernel) ?_
    intro st hst
    obtain ⟨-, hkept⟩ := (hqueries _).2 st hst
    exact (hkept (by simp [OpensWithOr, searches])).2

end Query

end TableAccess
