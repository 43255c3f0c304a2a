import TableAccess.Proofs.JsonDocuments
import TableAccess.Proofs.Parts
import TableAccess.Proofs.PredicateKeys
import TableAccess.Query.Decoder

/-!
# Documents of queries

`Query.IsGivenBy` says which documents give a query, in the terms of somebody who writes one: the
parts stand under their names in any order, each in one of its forms, and what has its default may
be left out. Nothing in it depends on how documents are read. Every document that gives a query is
read as that query (`Query.ofDocument_of_isGivenBy`), so a document gives no more than one.
-/

namespace TableAccess

open Decoding

/-! ### Parts of one value -/

/-- The forms of expressions: a list, or the only one by itself. -/
def ExpressionsGivenBy (expressions : List String) (d : Document) : Prop :=
  d = .array (expressions.map .string) true ∨ ∃ s, expressions = [s] ∧ d = .string s

/-- The forms of a bound: a number, or null for none. -/
def BoundGivenBy : Option Int64 → Document → Prop
  | some n, d => d = .int n.toInt
  | none, d => d = .null

def Value.IsGivenBy (v : Value) (d : Document) : Prop :=
  d = .ofJson v.toJson

/-- Predicates are given by a member for each, in order, with a key of the predicate. -/
def Filter.IsGivenBy (filter : Filter) : Document → Prop :=
  IsMapOf (fun p member => p.IsKeyedBy member.1 ∧ p.value.IsGivenBy member.2) filter

/-- Every predicate can be written as a member. -/
def Filter.IsExpressible (filter : Filter) : Prop :=
  ∀ p ∈ filter, Text.IsTrimmed p.column.toList ∧ p.value.isPlain = true

def Wildcard.name : Wildcard → String
  | both => "both"
  | before => "before"
  | after => "after"
  | none => "none"

def Query.Shape.name : Query.Shape → String
  | all => "all"
  | single => "single"

/-- The names of a way to join, as lists of words. -/
def Join.Kind.spellings : Join.Kind → List (List String)
  | plain => [[]]
  | inner => [["inner"]]
  | left => [["left"], ["left", "outer"]]
  | right => [["right"], ["right", "outer"]]
  | full => [["full"], ["outer"], ["full", "outer"]]

/-- A text is a name of a way to join; the case of letters and what separates words do not count. -/
def Join.Kind.IsNamedBy (kind : Join.Kind) (s : String) : Prop :=
  ((Text.words s.toList).map fun word => String.ofList (Text.lower word)) ∈ kind.spellings

/-! ### Structures -/

def MemberList.parts (m : MemberList) : List Part :=
  [⟨"column", (· = .string m.column), False⟩,
    ⟨"values", IsListOf Value.IsGivenBy m.values, False⟩]

def MemberList.IsGivenBy (m : MemberList) : Document → Prop :=
  IsObjectOf m.parts

def TextMatch.parts (t : TextMatch) : List Part :=
  [⟨"column", (· = .string t.column), False⟩,
    ⟨"pattern", (· = .string t.text), False⟩,
    ⟨"side", (· = .string t.side.name), t.side = .both⟩]

def TextMatch.IsGivenBy (t : TextMatch) : Document → Prop :=
  IsObjectOf t.parts

/-- The forms of LIKE terms: a list of objects or, if all are open on both sides, an object with a
text for each column. Either is read as a whole, so that there must be a value in every place. -/
def MatchesGivenBy (terms : List TextMatch) (d : Document) : Prop :=
  d.isReadable = true ∧
    (IsListOf TextMatch.IsGivenBy terms d ∨
      (∀ t ∈ terms, t.side = .both) ∧
        IsMapOf (fun t member => member = (t.column, .string t.text)) terms d)

def Join.parts (j : Join) : List Part :=
  [⟨"joinTable", (· = .string j.table), False⟩,
    ⟨"joinOn", (· = .string j.condition), False⟩,
    ⟨"joinType", fun d => ∃ s, d = .string s ∧ j.kind.IsNamedBy s, j.kind = .plain⟩]

def Join.IsGivenBy (j : Join) : Document → Prop :=
  IsObjectOf j.parts

namespace Query

def parts (q : Query) : List Part :=
  [⟨"columns", ExpressionsGivenBy q.columns, q.columns = []⟩,
    ⟨"table", (· = .string q.table), False⟩,
    ⟨"joins", IsListOf Join.IsGivenBy q.joins, q.joins = []⟩,
    ⟨"filter", q.filter.IsGivenBy, q.filter = []⟩,
    ⟨"orFilter", q.orFilter.IsGivenBy, q.orFilter = []⟩,
    ⟨"whereIn", IsListOf MemberList.IsGivenBy q.among, q.among = []⟩,
    ⟨"whereNotIn", IsListOf MemberList.IsGivenBy q.notAmong, q.notAmong = []⟩,
    ⟨"like", MatchesGivenBy q.like, q.like = []⟩,
    ⟨"orLike", MatchesGivenBy q.orLike, q.orLike = []⟩,
    ⟨"groupBy", ExpressionsGivenBy q.groupBy, q.groupBy = []⟩,
    ⟨"orHaving", q.orHaving.IsGivenBy, q.orHaving = []⟩,
    ⟨"orderBy", ExpressionsGivenBy q.orderBy, q.orderBy = []⟩,
    ⟨"limit", BoundGivenBy q.limit, q.limit = none⟩,
    ⟨"offset", BoundGivenBy q.offset, q.offset = none⟩,
    ⟨"resultShape", (· = .string q.shape.name), q.shape = .all⟩]

/-- The document is an object whose members give the parts of the query. -/
def IsGivenBy (q : Query) : Document → Prop :=
  IsObjectOf q.parts

/-- The predicates of the query can be written as members and its values have JSON forms. -/
structure IsExpressible (q : Query) : Prop where
  filter : q.filter.IsExpressible
  orFilter : q.orFilter.IsExpressible
  orHaving : q.orHaving.IsExpressible
  among : ∀ m ∈ q.among, ∀ v ∈ m.values, v.isPlain = true
  notAmong : ∀ m ∈ q.notAmong, ∀ v ∈ m.values, v.isPlain = true

end Query

namespace Criteria

def parts (c : Criteria) : List Part :=
  [⟨"filter", c.filter.IsGivenBy, c.filter = []⟩,
    ⟨"whereIn", IsListOf MemberList.IsGivenBy c.among, c.among = []⟩]

def IsGivenBy (c : Criteria) : Document → Prop :=
  IsObjectOf c.parts

structure IsExpressible (c : Criteria) : Prop where
  filter : c.filter.IsExpressible
  among : ∀ m ∈ c.among, ∀ v ∈ m.values, v.isPlain = true

end Criteria

/-! ### Reading parts of one value -/

lemma itemsToJson?_map_string (expressions : List String) :
    Document.itemsToJson? (expressions.map .string) = some (expressions.map .string) := by
  induction expressions with
  | nil => rfl
  | cons s rest ih => simp [Document.itemsToJson?, Document.toJson?, ih]

lemma list_string_map (expressions : List String) :
    list string (.array (expressions.map .string) true) = .ok expressions := by
  refine list_eq_ok (R := fun s item => item = .string s) ⟨_, rfl, ?_⟩ ?_
  · rw [List.forall₂_map_right_iff]
    exact List.forall₂_same.mpr fun _ _ => rfl
  · rintro s _ _ rfl
    rfl

theorem ExpressionsGivenBy.read {expressions : List String} {d : Document}
    (h : ExpressionsGivenBy expressions d) : anyForm expressionForm d = .ok expressions := by
  rcases h with rfl | ⟨s, rfl, rfl⟩
  · have hreadable : (Document.array (expressions.map .string) true).isReadable = true := by
      simp [Document.isReadable, Document.toJson?, itemsToJson?_map_string]
    simp [anyForm, hreadable, expressionForm, list_string_map, Except.toOption]
  · rfl

theorem BoundGivenBy.read {bound : Option Int64} {d : Document} (h : BoundGivenBy bound d) :
    Decoding.optional integer d = .ok bound := by
  cases bound with
  | none =>
    obtain rfl : d = .null := h
    rfl
  | some n =>
    obtain rfl : d = .int n.toInt := h
    have hbound : n.toInt < 9223372036854775808 := n.toInt_lt
    simp [Decoding.optional, integer, hbound, Except.map]

theorem Filter.IsGivenBy.read {filter : Filter} {d : Document} (h : filter.IsGivenBy d)
    (hfilter : filter.IsExpressible) : Filter.ofDocument d = .ok filter := by
  have hpairs : ∃ values, pairs Value.ofDocument d = .ok values ∧
      values.map (fun pair => Predicate.ofKey pair.1 pair.2) = filter := by
    refine map_pairs_eq_ok h ?_
    rintro p hp ⟨key, item⟩ ⟨hkey, rfl⟩
    obtain ⟨htrimmed, hplain⟩ := hfilter p hp
    exact ⟨p.value, Value.ofDocument_toJson hplain,
      Predicate.ofKey_eq_of_isKeyedBy hkey htrimmed⟩
  obtain ⟨values, hvalues, hmap⟩ := hpairs
  rw [Filter.ofDocument, hvalues]
  exact congrArg _ hmap

theorem Wildcard.read_name {side : Wildcard} {d : Document} (h : d = .string side.name) :
    named Wildcard.names .value d = .ok side := by
  subst h
  cases side <;> rfl

theorem Query.Shape.read_name {shape : Query.Shape} {d : Document} (h : d = .string shape.name)
    (origin : Origin) : named Query.Shape.names origin d = .ok shape := by
  subst h
  cases shape <;> rfl

theorem Join.Kind.IsNamedBy.read {kind : Join.Kind} {s : String} (h : kind.IsNamedBy s) :
    Join.Kind.ofDocument (.string s) = .ok kind := by
  have hparse : parse s = .ok kind := by
    unfold IsNamedBy at h
    rw [parse]
    generalize ((Text.words s.toList).map fun word => String.ofList (Text.lower word)) = words at *
    cases kind <;> simp only [spellings, List.mem_cons, List.not_mem_nil, or_false] at h
    case plain | inner => subst h; rfl
    case left | right => rcases h with rfl | rfl <;> rfl
    case full => rcases h with rfl | rfl | rfl <;> rfl
  simp [Join.Kind.ofDocument, string, hparse, bind, Except.bind, pure, Except.pure]

/-! ### Reading structures -/

/-- What has been read of a member list. -/
def MemberList.upTo (m : MemberList) (seen : List String) : MemberList where
  column := kept seen "column" m.column ""
  values := kept seen "values" m.values []

lemma MemberList.reads_parts {m : MemberList} (hplain : ∀ v ∈ m.values, v.isPlain = true) :
    List.Forall₂ (Component.Reads m.upTo) MemberList.components m.parts := by
  refine .cons ?column (.cons ?values .nil)
  case column =>
    exact Component.reads_needed (fun _ hd => string_eq_ok hd) fun _ => by simp [upTo]
  case values =>
    refine Component.reads_needed (fun d hd => list_eq_ok hd ?_) fun _ => by simp [upTo]
    rintro v hv _ rfl
    exact Value.ofDocument_toJson (hplain v hv)

theorem MemberList.IsGivenBy.read {m : MemberList} {d : Document} (h : m.IsGivenBy d)
    (hplain : ∀ v ∈ m.values, v.isPlain = true) (origin : Origin) :
    MemberList.ofDocument origin d = .ok m := by
  refine structured_eq_ok (reads_parts hplain) rfl (fun seen hseen => ?_) h _ _
  simp only [parts, List.forall_mem_cons, false_or] at hseen
  simp only [upTo, kept_eq_self, hseen, or_true]

/-- What has been read of a LIKE term. -/
def TextMatch.upTo (t : TextMatch) (seen : List String) : TextMatch where
  column := kept seen "column" t.column ""
  text := kept seen "pattern" t.text ""
  side := kept seen "side" t.side .both

lemma TextMatch.reads_parts (t : TextMatch) :
    List.Forall₂ (Component.Reads t.upTo) TextMatch.components t.parts := by
  refine .cons ?column (.cons ?text (.cons ?side .nil))
  case column | text =>
    exact Component.reads_needed (fun _ hd => string_eq_ok hd) fun _ => by simp [upTo]
  case side =>
    exact Component.reads_optional (fun _ hd => Wildcard.read_name hd) fun _ => by simp [upTo]

theorem TextMatch.IsGivenBy.read {t : TextMatch} {d : Document} (h : t.IsGivenBy d) :
    TextMatch.ofDocument d = .ok t := by
  refine structured_eq_ok (reads_parts t) rfl (fun seen hseen => ?_) h _ _
  simp only [parts, List.forall_mem_cons, false_or] at hseen
  simp only [upTo, kept_eq_self, hseen, or_true]

theorem MatchesGivenBy.read {terms : List TextMatch} {d : Document} (h : MatchesGivenBy terms d) :
    anyForm TextMatch.form d = .ok terms := by
  obtain ⟨hreadable, hlist | ⟨hboth, hmap⟩⟩ := h
  · have hread := list_eq_ok hlist fun t _ item ht => TextMatch.IsGivenBy.read ht
    simp [anyForm, hreadable, TextMatch.form, hread]
  · have hpairs : ∃ texts, pairs string d = .ok texts ∧
        texts.map (fun pair => TextMatch.anywhere pair.1 pair.2) = terms := by
      refine map_pairs_eq_ok hmap ?_
      rintro t ht _ rfl
      exact ⟨t.text, rfl, by rw [TextMatch.anywhere, ← hboth t ht]⟩
    obtain ⟨texts, htexts, hterms⟩ := hpairs
    have hlist : ∃ fault, list TextMatch.ofDocument d = .error fault := by
      obtain ⟨members, rfl, -⟩ := hmap
      exact ⟨_, rfl⟩
    obtain ⟨fault, hlist⟩ := hlist
    simp only [anyForm, hreadable, if_true, TextMatch.form, hlist, htexts]
    rw [hterms]

/-- What has been read of a join. -/
def Join.upTo (j : Join) (seen : List String) : Join where
  table := kept seen "joinTable" j.table ""
  condition := kept seen "joinOn" j.condition ""
  kind := kept seen "joinType" j.kind .plain

lemma Join.reads_parts (j : Join) :
    List.Forall₂ (Component.Reads j.upTo) Join.components j.parts := by
  refine .cons ?table (.cons ?condition (.cons ?kind .nil))
  case table | condition =>
    exact Component.reads_needed (fun _ hd => string_eq_ok hd) fun _ => by simp [upTo]
  case kind =>
    refine Component.reads_optional (a := j.kind) ?_ fun _ => by simp [upTo]
    rintro _ ⟨s, rfl, hs⟩
    exact hs.read

theorem Join.IsGivenBy.read {j : Join} {d : Document} (h : j.IsGivenBy d) (origin : Origin) :
    Join.ofDocument origin d = .ok j := by
  refine structured_eq_ok (reads_parts j) rfl (fun seen hseen => ?_) h _ _
  simp only [parts, List.forall_mem_cons, false_or] at hseen
  simp only [upTo, kept_eq_self, hseen, or_true]

namespace Query

/-- What has been read of a query. -/
def upTo (q : Query) (seen : List String) : Query where
  columns := kept seen "columns" q.columns []
  table := kept seen "table" q.table ""
  joins := kept seen "joins" q.joins []
  filter := kept seen "filter" q.filter []
  orFilter := kept seen "orFilter" q.orFilter []
  among := kept seen "whereIn" q.among []
  notAmong := kept seen "whereNotIn" q.notAmong []
  like := kept seen "like" q.like []
  orLike := kept seen "orLike" q.orLike []
  groupBy := kept seen "groupBy" q.groupBy []
  orHaving := kept seen "orHaving" q.orHaving []
  orderBy := kept seen "orderBy" q.orderBy []
  limit := kept seen "limit" q.limit none
  offset := kept seen "offset" q.offset none
  shape := kept seen "resultShape" q.shape .all

lemma reads_parts {q : Query} (hq : q.IsExpressible) (origin : Origin) :
    List.Forall₂ (Component.Reads q.upTo) (components origin) q.parts := by
  refine .cons ?columns (.cons ?table (.cons ?joins (.cons ?filter (.cons ?orFilter
    (.cons ?among (.cons ?notAmong (.cons ?like (.cons ?orLike (.cons ?groupBy (.cons ?orHaving
      (.cons ?orderBy (.cons ?limit (.cons ?offset (.cons ?shape .nil))))))))))))))
  case table =>
    exact Component.reads_needed (fun _ hd => string_eq_ok hd) fun _ => by simp [upTo]
  case columns | groupBy | orderBy =>
    exact Component.reads_optional (fun _ hd => ExpressionsGivenBy.read hd) fun _ => by simp [upTo]
  case joins =>
    exact Component.reads_optional (fun _ hd => list_eq_ok hd fun _ _ _ hj => hj.read origin)
      fun _ => by simp [upTo]
  case filter =>
    exact Component.reads_optional (fun _ hd => hd.read hq.filter) fun _ => by simp [upTo]
  case orFilter =>
    exact Component.reads_optional (fun _ hd => hd.read hq.orFilter) fun _ => by simp [upTo]
  case orHaving =>
    exact Component.reads_optional (fun _ hd => hd.read hq.orHaving) fun _ => by simp [upTo]
  case among =>
    exact Component.reads_optional
      (fun _ hd => list_eq_ok hd fun m hm _ hgiven => hgiven.read (hq.among m hm) origin)
      fun _ => by simp [upTo]
  case notAmong =>
    exact Component.reads_optional
      (fun _ hd => list_eq_ok hd fun m hm _ hgiven => hgiven.read (hq.notAmong m hm) origin)
      fun _ => by simp [upTo]
  case like | orLike =>
    exact Component.reads_optional (fun _ hd => MatchesGivenBy.read hd) fun _ => by simp [upTo]
  case limit | offset =>
    exact Component.reads_optional (fun _ hd => BoundGivenBy.read hd) fun _ => by simp [upTo]
  case shape =>
    exact Component.reads_optional (fun _ hd => Shape.read_name hd origin) fun _ => by simp [upTo]

theorem ofDocument_of_isGivenBy {q : Query} {d : Document} (hq : q.IsExpressible)
    (h : q.IsGivenBy d) (origin : Origin) : ofDocument origin d = .ok q := by
  refine structured_eq_ok (reads_parts hq origin) rfl (fun seen hseen => ?_) h _ _
  simp only [parts, List.forall_mem_cons, false_or] at hseen
  simp only [upTo, kept_eq_self, hseen, or_true]

/-- A document gives one query at most. -/
theorem eq_of_isGivenBy {q r : Query} {d : Document} (hq : q.IsExpressible) (hr : r.IsExpressible)
    (hqd : q.IsGivenBy d) (hrd : r.IsGivenBy d) : q = r := by
  have hread := ofDocument_of_isGivenBy hq hqd .text
  rw [ofDocument_of_isGivenBy hr hrd .text] at hread
  exact (Except.ok.inj hread).symm

/-- A query whose filter compares one column twice. -/
def adults : Query where
  table := "users"
  filter := [⟨"age", .ge, .int 18⟩, ⟨"name", .ne, .null⟩, ⟨"name", .ne, .text ""⟩]
  like := [⟨"name", "smi", .both⟩]

end Query

namespace Criteria

/-- What has been read of criteria. -/
def upTo (c : Criteria) (seen : List String) : Criteria where
  filter := kept seen "filter" c.filter []
  among := kept seen "whereIn" c.among []

lemma reads_parts {c : Criteria} (hc : c.IsExpressible) (origin : Origin) :
    List.Forall₂ (Component.Reads c.upTo) (components origin) c.parts := by
  refine .cons ?filter (.cons ?among .nil)
  case filter =>
    exact Component.reads_optional (fun _ hd => hd.read hc.filter) fun _ => by simp [upTo]
  case among =>
    exact Component.reads_optional
      (fun _ hd => list_eq_ok hd fun m hm _ hgiven => hgiven.read (hc.among m hm) origin)
      fun _ => by simp [upTo]

/-- A document that gives criteria is read as these criteria, wherever it comes from. -/
theorem ofDocument_of_isGivenBy {c : Criteria} {d : Document} (hc : c.IsExpressible)
    (h : c.IsGivenBy d) (origin : Origin) : ofDocument origin d = .ok c := by
  refine structured_eq_ok (reads_parts hc origin) rfl (fun seen hseen => ?_) h _ _
  simp only [parts, List.forall_mem_cons] at hseen
  simp only [upTo, kept_eq_self, hseen]

end Criteria
end TableAccess
