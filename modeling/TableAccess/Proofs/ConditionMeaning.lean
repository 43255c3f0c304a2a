import Mathlib.Data.Fintype.Order
import TableAccess.Proofs.Formula
import TableAccess.Proofs.Layout

/-!
# What the conditions of a query mean

The WHERE clause of a query is one chain without parentheses, so the AND in front of a list or of
a text match attaches it to the alternative before it. `Query.conditionValue` says which
alternatives this makes, and `Query.conditions_meaning` that SQL reads the chain so.
-/

namespace TableAccess

open Formula

section Alternatives

variable {α : Type} [Lattice α] [BoundedOrder α]

/-- The alternatives to which the conditions of a query amount. Restrictions belong to the last
alternative predicate; without one they belong to the filter. -/
def alternatives (filter orFilter restrictions orLike : List α) : List α :=
  match orFilter.getLast? with
  | none =>
    (if filter.isEmpty && restrictions.isEmpty then []
      else [allOf filter ⊓ allOf restrictions]) ++ orLike
  | some last =>
    (if filter.isEmpty then [] else [allOf filter]) ++ orFilter.dropLast ++
      [last ⊓ allOf restrictions] ++ orLike

lemma continuedValue_ors (x : α) (ys : List α) :
    continuedValue x (ys.map (.or, ·)) = anyOf (x :: ys) := by
  induction ys generalizing x with
  | nil => exact (sup_bot_eq x).symm
  | cons y ys ih =>
    rw [List.map_cons, continuedValue, ih]
    rfl

lemma chainValue_ors (xs : List α) : chainValue (xs.map (.or, ·)) = anyOf xs := by
  cases xs with
  | nil => rfl
  | cons x xs => exact continuedValue_ors x xs

/-- What an OR separates is evaluated apart. -/
lemma chainValue_or (links : List (Junction × α)) (x : α) (more : List (Junction × α)) :
    chainValue (links ++ (.or, x) :: more) = chainValue links ⊔ continuedValue x more := by
  cases links with
  | nil => exact (bot_sup_eq _).symm
  | cons link links => exact continuedValue_or link.2 x links more

lemma chainValue_ands {xs : List α} (hne : xs ≠ []) (more : List (Junction × α)) :
    chainValue (xs.map (.and, ·) ++ more) = continuedValue (allOf xs) more := by
  cases xs with
  | nil => exact absurd rfl hne
  | cons x xs => exact continuedValue_and x xs more

lemma continuedValue_restrictions (x : α) (restrictions orLike : List α) :
    continuedValue x (restrictions.map (.and, ·) ++ orLike.map (.or, ·)) =
      x ⊓ allOf restrictions ⊔ anyOf orLike := by
  rw [continuedValue_and, continuedValue_ors]
  rfl

lemma chainValue_front (filter orFilter : List α) :
    chainValue (filter.map (.and, ·) ++ orFilter.map (.or, ·)) =
      anyOf ((if filter.isEmpty then [] else [allOf filter]) ++ orFilter) := by
  by_cases hfilter : filter = []
  · rw [hfilter]
    exact chainValue_ors orFilter
  · rw [chainValue_ands hfilter, continuedValue_ors, if_neg (by simpa using hfilter)]
    rfl

theorem chainValue_alternatives (filter orFilter restrictions orLike : List α) :
    chainValue (filter.map (.and, ·) ++ orFilter.map (.or, ·) ++ restrictions.map (.and, ·) ++
      orLike.map (.or, ·)) = anyOf (alternatives filter orFilter restrictions orLike) := by
  rcases List.eq_nil_or_concat' orFilter with rfl | ⟨front, last, rfl⟩
  · rw [alternatives, List.getLast?_nil, List.map_nil, List.append_nil, ← List.map_append]
    by_cases hands : filter ++ restrictions = []
    · obtain ⟨rfl, rfl⟩ := List.append_eq_nil_iff.mp hands
      exact chainValue_ors orLike
    · have hempty : (filter.isEmpty && restrictions.isEmpty) = false := by
        simpa [Bool.eq_false_iff] using hands
      rw [chainValue_ands hands, continuedValue_ors, allOf_append, hempty]
      rfl
  · -- the OR in front of the last alternative predicate cuts the chain in two
    have hlinks : filter.map (Junction.and, ·) ++ (front ++ [last]).map (Junction.or, ·) ++
        restrictions.map (Junction.and, ·) ++ orLike.map (Junction.or, ·) =
        (filter.map (Junction.and, ·) ++ front.map (Junction.or, ·)) ++ (.or, last) ::
          (restrictions.map (Junction.and, ·) ++ orLike.map (Junction.or, ·)) := by
      simp
    rw [hlinks, chainValue_or, chainValue_front, continuedValue_restrictions]
    simp only [alternatives, List.getLast?_concat, List.dropLast_concat, anyOf_append]
    rw [show anyOf [last ⊓ allOf restrictions] = last ⊓ allOf restrictions from sup_bot_eq _,
      sup_assoc, sup_assoc, sup_assoc]

end Alternatives

/-- A term of a query: the kind of its list and its place there. -/
structure Operand where
  kind : Clause.Kind
  index : Nat
  deriving DecidableEq, Repr

namespace Operand

/-- The terms of a list, each behind a junction. -/
def listed (j : Junction) (kind : Clause.Kind) (count : Nat) : List (Junction × Operand) :=
  (List.range count).map fun i => (j, ⟨kind, i⟩)

/-- The truth of the terms of a list. -/
def values {α : Type} (v : Operand → α) (kind : Clause.Kind) (count : Nat) : List α :=
  (List.range count).map fun i => v ⟨kind, i⟩

lemma map_listed {α : Type} (v : Operand → α) (j : Junction) (kind : Clause.Kind) (count : Nat) :
    (listed j kind count).map (Prod.map id v) = (values v kind count).map (j, ·) := by
  rw [listed, values, List.map_map, List.map_map]
  rfl

/-- The template of a piece of a chain. -/
def template (body : Clause.Kind → List Template) : Token Operand → Template
  | .term t => (body t.kind).getD t.index .empty
  | .junction .and => .text " AND "
  | .junction .or => .text " OR "

/-- A chain behind a keyword; nothing if it is empty. -/
def behind (keyword : String) (body : Clause.Kind → List Template)
    (links : List (Junction × Operand)) : Template :=
  if links.isEmpty then .empty
  else .text keyword ++ (Token.chain links).foldr (fun token t => template body token ++ t) .empty

lemma foldr_continued (body : Clause.Kind → List Template) (links : List (Junction × Operand)) :
    (Token.continued links).foldr (fun token t => template body token ++ t) .empty =
      .continued (links.map fun link =>
        (Section.condition.between link.1, (body link.2.kind).getD link.2.index .empty)) := by
  induction links with
  | nil => rfl
  | cons link links ih =>
    obtain ⟨j, t⟩ := link
    have hcons : Token.continued ((j, t) :: links) =
        .junction j :: .term t :: Token.continued links := rfl
    rw [hcons, List.foldr_cons, List.foldr_cons, ih, List.map_cons, Template.continued]
    cases j <;> exact (Template.append_assoc _ _ _).symm

lemma behind_eq_headed (keyword : String) (body : Clause.Kind → List Template)
    (links : List (Junction × Operand)) :
    behind keyword body links = .headed keyword (links.map fun link =>
      (Section.condition.between link.1, (body link.2.kind).getD link.2.index .empty)) := by
  cases links with
  | nil => rfl
  | cons link links =>
    rw [behind, if_neg (by simp), Token.chain, List.foldr_cons, foldr_continued, List.map_cons,
      Template.headed_cons]
    rfl

lemma map_listed_template (body : Clause.Kind → List Template) (j : Junction)
    {kind : Clause.Kind} {count : Nat} (hcount : (body kind).length = count) :
    (listed j kind count).map (fun link =>
        (Section.condition.between link.1, (body link.2.kind).getD link.2.index .empty)) =
      (body kind).map (Section.condition.between j, ·) := by
  rw [listed, List.map_map, ← hcount]
  refine List.ext_getElem (by simp) ?_
  intro i h _
  simp at h
  simp [h]

end Operand

namespace Query

/-- The terms of the WHERE clause in order, each behind its junction. -/
def conditions (q : Query) : List (Junction × Operand) :=
  Operand.listed .and .filter q.filter.length ++ Operand.listed .or .orFilter q.orFilter.length ++
    (Operand.listed .and .among q.among.length ++
      Operand.listed .and .notAmong q.notAmong.length ++
      Operand.listed .and .like q.like.length) ++
    Operand.listed .or .orLike q.orLike.length

/-- The terms of the HAVING clause in order, each behind its junction. -/
def groupConditions (q : Query) : List (Junction × Operand) :=
  Operand.listed .or .orHaving q.orHaving.length

/-- The truth of the conditions of a query. -/
def conditionValue {α : Type} [Lattice α] [BoundedOrder α] (q : Query) (v : Operand → α) : α :=
  anyOf (alternatives (Operand.values v .filter q.filter.length)
    (Operand.values v .orFilter q.orFilter.length)
    (Operand.values v .among q.among.length ++ Operand.values v .notAmong q.notAmong.length ++
      Operand.values v .like q.like.length)
    (Operand.values v .orLike q.orLike.length))

lemma chainValue_conditions {α : Type} [Lattice α] [BoundedOrder α] (q : Query)
    (v : Operand → α) : chainValue (q.conditions.map (Prod.map id v)) = q.conditionValue v := by
  rw [conditionValue, ← chainValue_alternatives]
  simp only [conditions, List.map_append, Operand.map_listed]

lemma chainValue_groupConditions {α : Type} [Lattice α] [BoundedOrder α] (q : Query)
    (v : Operand → α) : chainValue (q.groupConditions.map (Prod.map id v)) =
      anyOf (Operand.values v .orHaving q.orHaving.length) := by
  rw [groupConditions, Operand.map_listed, chainValue_ors]

section Layout

variable {settings : Settings} {q : Query} {body : Clause.Kind → List Template}

lemma behind_conditions (hbody : ∀ kind, q.terms settings kind = .ok (body kind)) :
    Operand.behind " WHERE " body q.conditions =
      .headed " WHERE " (Section.condition.links body) := by
  rw [Operand.behind_eq_headed, Section.links_condition, conditions]
  simp only [List.map_append, Operand.map_listed_template body _ (length_of_mapM (hbody .filter)),
    Operand.map_listed_template body _ (length_of_mapM (hbody .orFilter)),
    Operand.map_listed_template body _ (length_of_mapM (hbody .among)),
    Operand.map_listed_template body _ (length_of_mapM (hbody .notAmong)),
    Operand.map_listed_template body _ (length_of_mapM (hbody .like)),
    Operand.map_listed_template body _ (length_of_mapM (hbody .orLike))]
  rfl

lemma behind_groupConditions (hbody : ∀ kind, q.terms settings kind = .ok (body kind)) :
    Operand.behind " HAVING " body q.groupConditions =
      .headed " HAVING " ((body .orHaving).map (" OR ", ·)) := by
  rw [Operand.behind_eq_headed, groupConditions,
    Operand.map_listed_template body _ (length_of_mapM (hbody .orHaving))]
  rfl

end Layout

/-- The conditions of a query that has a statement stand in it as chains of its terms. SQL reads
each chain, and whatever it reads has the truth of the alternatives that the lists make. -/
theorem conditions_meaning {settings : Settings} {q : Query} {st : Statement}
    (h : (q.statement settings).outcome = .ok st) {α : Type} [Lattice α] [BoundedOrder α]
    (v : Operand → α) :
    ∃ body : Clause.Kind → List Template,
      (∀ kind, q.terms settings kind = .ok (body kind)) ∧
      (.text "SELECT " ++ .linked ((body .column).map (", ", ·)) ++
        .headed " FROM " ((body .table).map (", ", ·)) ++
        .headed " " ((body .join).map (" ", ·)) ++
        Operand.behind " WHERE " body q.conditions ++
        .headed " GROUP BY " ((body .group).map (", ", ·)) ++
        Operand.behind " HAVING " body q.groupConditions ++
        .headed " ORDER BY " ((body .order).map (", ", ·)) ++
        .headed " " ((body .paging).map (" ", ·)) : Template).statement = st ∧
      (q.conditions ≠ [] → ∃ f, Reads (Token.chain q.conditions) f) ∧
      (∀ f, Reads (Token.chain q.conditions) f → f.value v = q.conditionValue v) ∧
      (q.groupConditions ≠ [] → ∃ f, Reads (Token.chain q.groupConditions) f) ∧
      ∀ f, Reads (Token.chain q.groupConditions) f →
        f.value v = anyOf (Operand.values v .orHaving q.orHaving.length) := by
  obtain ⟨body, hbody, hst⟩ := statement_layout h
  refine ⟨body, hbody, ?_, exists_reads, ?_, exists_reads, ?_⟩
  · rw [behind_conditions hbody, behind_groupConditions hbody]
    exact hst
  · intro f hf
    rw [hf.value_eq, chainValue_conditions]
  · intro f hf
    rw [hf.value_eq, chainValue_groupConditions]

/-- A query with alternatives and a restriction. -/
def withAlternatives : Query where
  table := "t"
  filter := [⟨"a", .eq, .int 1⟩]
  orFilter := [⟨"b", .eq, .int 2⟩]
  among := [⟨"c", [.int 3]⟩]
  orLike := [⟨"d", "x", .both⟩]

/-- The alternative predicate alone is not enough: the list restricts it. -/
theorem conditions_meaning_withAlternatives :
    ∃ st, (withAlternatives.statement {}).outcome = .ok st ∧
      st.sql = "SELECT * FROM t WHERE a = $1 OR b = $2 AND c IN ($3) OR d ILIKE $4" ∧
      ∃ f, Reads (Token.chain withAlternatives.conditions) f ∧
        f.value (fun t => t.kind == .orFilter) = false := by
  refine Operation.exists_statement_of_sql (by decide +kernel) ?_
  intro st hst
  obtain ⟨_, _, _, hreads, hvalue, _⟩ := conditions_meaning hst fun t => t.kind == .orFilter
  obtain ⟨f, hf⟩ := hreads (by decide)
  exact ⟨f, hf, by rw [hvalue f hf]; decide⟩

end Query
end TableAccess
