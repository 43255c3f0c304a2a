import TableAccess.Proofs.Layout
import TableAccess.Proofs.Reference
import TableAccess.Proofs.Terms

/-!
# The text of a query

The statement of a query is what the reference writes. Each term agrees with the reference behind
any number of values, and so do lists of terms; the layout puts them together in the order in
which the reference meets them.
-/

namespace TableAccess

open Reference

namespace Template

/-- The texts of templates that stand one behind the other. -/
def texts (count : Nat) : List Template → List String
  | [] => []
  | t :: ts => t.sqlFrom count :: texts (count + t.params.length) ts

/-- Links with the texts of their templates. -/
def linkTexts (count : Nat) : List (String × Template) → List (String × String)
  | [] => []
  | (s, t) :: links => (s, t.sqlFrom count) :: linkTexts (count + t.params.length) links

lemma linkTexts_append (count : Nat) (links more : List (String × Template)) :
    linkTexts count (links ++ more) = linkTexts count links ++
      linkTexts (count + (links.flatMap fun link => link.2.params).length) more := by
  induction links generalizing count with
  | nil => rfl
  | cons link links ih =>
    simp only [List.cons_append, linkTexts, ih, List.flatMap_cons, List.length_append,
      Nat.add_assoc]

lemma linkTexts_map (count : Nat) (s : String) (ts : List Template) :
    linkTexts count (ts.map (s, ·)) = (texts count ts).map (s, ·) := by
  induction ts generalizing count with
  | nil => rfl
  | cons t ts ih => simp only [List.map_cons, linkTexts, texts, ih]

lemma texts_append (count : Nat) (ts us : List Template) :
    texts count (ts ++ us) =
      texts count ts ++ texts (count + (ts.flatMap params).length) us := by
  induction ts generalizing count with
  | nil => rfl
  | cons t ts ih =>
    simp only [List.cons_append, texts, ih, List.flatMap_cons, List.length_append, Nat.add_assoc]

lemma params_continued (links : List (String × Template)) :
    (continued links).params = links.flatMap fun link => link.2.params := by
  induction links with
  | nil => rfl
  | cons link links ih => simp [continued, ih]

lemma params_linked (links : List (String × Template)) :
    (Template.linked links).params = links.flatMap fun link => link.2.params := by
  cases links with
  | nil => rfl
  | cons link links => simp [Template.linked, params_continued]

lemma params_headed (keyword : String) (links : List (String × Template)) :
    (Template.headed keyword links).params = links.flatMap fun link => link.2.params := by
  cases links with
  | nil => rfl
  | cons link links => simp [Template.headed, params_linked]

lemma sqlFrom_continued (count : Nat) (links : List (String × Template)) :
    (continued links).sqlFrom count =
      String.join ((linkTexts count links).map fun link => link.1 ++ link.2) := by
  induction links generalizing count with
  | nil => rfl
  | cons link links ih => simp [continued, linkTexts, ih, String.append_assoc]

lemma sqlFrom_linked (count : Nat) (links : List (String × Template)) :
    (Template.linked links).sqlFrom count = Reference.linked (linkTexts count links) := by
  cases links with
  | nil => rfl
  | cons link links => simp [Template.linked, Reference.linked, linkTexts, sqlFrom_continued]

lemma sqlFrom_headed (count : Nat) (keyword : String) (links : List (String × Template)) :
    (Template.headed keyword links).sqlFrom count =
      Reference.headed keyword (linkTexts count links) := by
  cases links with
  | nil => rfl
  | cons link links => simp [Template.headed, Reference.headed, linkTexts, sqlFrom_linked]

lemma sqlFrom_joined (separator : String) (ts : List Template) (count : Nat) :
    (joined separator ts).sqlFrom count = separator.intercalate (texts count ts) := by
  induction ts generalizing count with
  | nil => rfl
  | cons t ts ih =>
    cases ts with
    | nil => simp [joined, texts]
    | cons u us =>
      have hjoined : joined separator (t :: u :: us) =
          t ++ text separator ++ joined separator (u :: us) := rfl
      rw [hjoined, sqlFrom_append, ih]
      simp [texts, String.intercalate_cons_cons]

lemma params_joined (separator : String) (ts : List Template) :
    (joined separator ts).params = ts.flatMap params := by
  rw [← linked_eq_joined, params_linked, List.flatMap_map]

/-- Writing behind any values gives the text and the values of a template. -/
def IsWrittenBy (t : Template) (w : Writing String) : Prop :=
  ∀ values, w.run values = (t.sqlFrom values.length, values ++ t.params)

/-- A template without slots, whose text is known. -/
def IsFixed (t : Template) (s : String) : Prop :=
  t.params = [] ∧ ∀ count, t.sqlFrom count = s

lemma isFixed_text (s : String) : (text s).IsFixed s :=
  ⟨params_text s, fun count => sqlFrom_text count s⟩

lemma IsFixed.append {t u : Template} {s r : String} (ht : t.IsFixed s) (hu : u.IsFixed r) :
    (t ++ u).IsFixed (s ++ r) :=
  ⟨by rw [params_append, ht.1, hu.1, List.append_nil],
    fun count => by rw [sqlFrom_append, ht.2, hu.2]⟩

lemma IsFixed.isWrittenBy {t : Template} {s : String} (h : t.IsFixed s) :
    t.IsWrittenBy (pure s) := by
  intro values
  rw [Writing.run_pure, h.1, h.2, List.append_nil]

end Template

theorem mapM_isWrittenBy {α : Type} {written : α → Writing String} {parts : List α}
    {ts : List Template} (h : List.Forall₂ (fun part t => t.IsWrittenBy (written part)) parts ts)
    (values : List Value) :
    (parts.mapM written).run values =
      (Template.texts values.length ts, values ++ ts.flatMap Template.params) := by
  induction h generalizing values with
  | nil => rw [List.mapM_nil, Writing.run_pure, Template.texts, List.flatMap_nil, List.append_nil]
  | cons hpart _ ih =>
    simp only [List.mapM_cons, Writing.run_bind, Writing.run_pure, hpart values, ih,
      Template.texts, List.length_append, List.flatMap_cons, List.append_assoc]

lemma mapM_term_isWrittenBy {α : Type} {term : α → Except Refusal Template}
    {written : α → Writing String}
    (hterm : ∀ part t, term part = .ok t → t.IsWrittenBy (written part)) {parts : List α}
    {ts : List Template} (h : parts.mapM term = .ok ts) (values : List Value) :
    (parts.mapM written).run values =
      (Template.texts values.length ts, values ++ ts.flatMap Template.params) :=
  mapM_isWrittenBy ((mapM_eq_ok_iff.mp h).imp hterm) values

lemma mapM_isFixed {α : Type} {term : α → Except Refusal Template} {spelled : α → String}
    (hterm : ∀ part t, term part = .ok t → t.IsFixed (spelled part)) {parts : List α}
    {ts : List Template} (h : parts.mapM term = .ok ts) :
    ts.flatMap Template.params = [] ∧ ∀ count, Template.texts count ts = parts.map spelled := by
  have hparts := mapM_eq_ok_iff.mp h
  induction hparts with
  | nil => exact ⟨rfl, fun _ => rfl⟩
  | cons hpart hrest ih =>
    obtain ⟨hparams, hsql⟩ := hterm _ _ hpart
    obtain ⟨hnone, htexts⟩ := ih (mapM_eq_ok_iff.mpr hrest)
    exact ⟨by rw [List.flatMap_cons, hparams, hnone, List.append_nil],
      fun count => by rw [Template.texts, hsql, htexts, List.map_cons]⟩

lemma linked_isFixed {α : Type} {term : α → Except Refusal Template} {spelled : α → String}
    (hterm : ∀ part t, term part = .ok t → t.IsFixed (spelled part)) {parts : List α}
    {ts : List Template} (h : parts.mapM term = .ok ts) (s : String) :
    (Template.linked (ts.map (s, ·))).IsFixed
      (linked (parts.map fun part => (s, spelled part))) := by
  obtain ⟨hparams, htexts⟩ := mapM_isFixed hterm h
  constructor
  · rw [Template.params_linked, List.flatMap_map, hparams]
  · intro count
    rw [Template.sqlFrom_linked, Template.linkTexts_map, htexts, List.map_map]
    rfl

lemma headed_isFixed {α : Type} {term : α → Except Refusal Template} {spelled : α → String}
    (hterm : ∀ part t, term part = .ok t → t.IsFixed (spelled part)) {parts : List α}
    {ts : List Template} (h : parts.mapM term = .ok ts) (keyword s : String) :
    (Template.headed keyword (ts.map (s, ·))).IsFixed
      (headed keyword (parts.map fun part => (s, spelled part))) := by
  obtain ⟨hparams, htexts⟩ := mapM_isFixed hterm h
  constructor
  · rw [Template.params_headed, List.flatMap_map, hparams]
  · intro count
    rw [Template.sqlFrom_headed, Template.linkTexts_map, htexts, List.map_map]
    rfl

/-- What stands between the terms may stand in front of all of them. -/
lemma Reference.headed_eq_join (s : String) (ts : List String) :
    headed s (ts.map (s, ·)) = String.join (ts.map (s ++ ·)) := by
  cases ts with
  | nil => rfl
  | cons t ts => simp [headed, linked, String.append_assoc, Function.comp_def]

section Terms

open Template

lemma isFixed_fragment {s : String} {f : Fragment} (h : Fragment.parse s = .ok f) :
    (fragment f).IsFixed (trimmed s) := by
  obtain ⟨rfl, -⟩ := (Fragment.parse_eq_ok_iff s f).mp h
  exact isFixed_text _

lemma isFixed_table {s : String} {t : TableReference} (h : TableReference.parse s = .ok t) :
    (table t).IsFixed (normalized s) := by
  have htext : normalized s = t.sql := by
    obtain ⟨i, name⟩ := t
    cases name <;> simp [normalized, h, TableReference.sql]
  rw [htext]
  exact isFixed_text _

lemma expressionTerm_isFixed {s : String} {t : Template} (h : expressionTerm s = .ok t) :
    t.IsFixed (trimmed s) := by
  obtain ⟨f, hf, rfl⟩ := expressionTerm_eq_ok_iff.mp h
  exact isFixed_fragment hf

lemma tableTerm_isFixed {s : String} {t : Template} (h : tableTerm s = .ok t) :
    t.IsFixed (normalized s) := by
  obtain ⟨r, hr, rfl⟩ := tableTerm_eq_ok_iff.mp h
  exact isFixed_table hr

lemma Join.sql_kind (kind : Join.Kind) : kind.sql = joining kind := by
  cases kind <;> rfl

lemma Join.term_isFixed {j : Join} {t : Template} (h : j.term = .ok t) :
    t.IsFixed j.written := by
  obtain ⟨r, condition, hr, hcondition, rfl⟩ := term_eq_ok_iff.mp h
  rw [template, written, sql_kind]
  exact (((isFixed_text _).append (isFixed_table hr)).append (isFixed_text _)).append
    (isFixed_fragment hcondition)

lemma Comparison.sql_eq (c : Comparison) : c.sql = sign c := by
  cases c <;> rfl

lemma Predicate.term_isWrittenBy {p : Predicate} {t : Template} (h : p.term = .ok t) :
    t.IsWrittenBy p.written := by
  obtain ⟨-, column, hcolumn, -, rfl⟩ := term_eq_ok_iff.mp h
  have hfixed := isFixed_fragment hcolumn
  intro values
  rw [written, template]
  split
  · next hnull =>
    simp only [hnull, Value.isNull, if_true, Writing.run_pure]
    simp [hfixed.2]
  · next hvalue =>
    have hnull : p.value.isNull = false := by
      cases hv : p.value with
      | null => exact absurd hv hvalue
      | _ => rfl
    simp only [hnull, Writing.run_bind, Writing.run_pure, Writing.run_placed]
    simp [hfixed.2, Comparison.sql_eq, String.append_assoc]

lemma params_slots (vs : List Value) : (slots vs).params = vs := by
  rw [slots, params_joined]
  simp [List.flatMap_map]

lemma slots_isWrittenBy (vs values : List Value) :
    (vs.mapM Value.placed).run values =
      (texts values.length (vs.map slot), values ++ vs) := by
  have hslots : List.Forall₂ (fun v t => t.IsWrittenBy v.placed) vs (vs.map slot) := by
    refine List.forall₂_map_right_iff.mpr (List.forall₂_same.mpr ?_)
    intro v _ values
    rw [Writing.run_placed, sqlFrom_slot, params_slot]
  have hparams : (vs.map slot).flatMap params = vs := by simp [List.flatMap_map]
  rw [mapM_isWrittenBy hslots, hparams]

lemma MemberList.term_isWrittenBy {negated : Bool} {m : MemberList} {t : Template}
    (h : m.term negated = .ok t) : t.IsWrittenBy (m.written negated) := by
  obtain ⟨column, hcolumn, rfl⟩ := term_eq_ok_iff.mp h
  have hfixed := isFixed_fragment hcolumn
  have hsql (count : Nat) : (slots m.values).sqlFrom count =
      Reference.linked ((texts count (m.values.map slot)).map (", ", ·)) := by
    rw [slots, ← linked_eq_joined, sqlFrom_linked, linkTexts_map]
  intro values
  by_cases hempty : m.values.isEmpty = true
  · simp only [template, written, if_pos hempty, Writing.run_pure]
    simp
  · simp only [template, written, if_neg hempty, Writing.run_bind, Writing.run_pure,
      slots_isWrittenBy]
    simp [operator, hfixed.2, params_slots, hsql, String.append_assoc]

lemma LetterCase.keyword_eq (letterCase : LetterCase) :
    letterCase.keyword = searching letterCase := by
  cases letterCase <;> rfl

lemma Wildcard.flatMap_escaped (s : String) :
    String.ofList (s.toList.flatMap escaped) = literally s := by
  have hescaped : ∀ c, escaped c = if c ∈ ['%', '_', '\\'] then ['\\', c] else [c] := by
    intro c
    simp [escaped]
  rw [literally, funext hescaped]

lemma TextMatch.pattern_eq (m : TextMatch) : m.pattern = Reference.pattern m.side m.text := by
  rw [pattern, Wildcard.pattern, String.ofList_append, String.ofList_append,
    Wildcard.flatMap_escaped]
  cases m.side <;> simp [Wildcard.opens, Wildcard.ends, Reference.pattern]

lemma TextMatch.term_isWrittenBy {letterCase : LetterCase} {m : TextMatch} {t : Template}
    (h : m.term letterCase = .ok t) :
    t.IsWrittenBy (search letterCase m.column (Reference.pattern m.side m.text)) := by
  obtain ⟨column, hcolumn, rfl⟩ := term_eq_ok_iff.mp h
  have hfixed := isFixed_fragment hcolumn
  intro values
  simp only [template, search, Writing.run_bind, Writing.run_pure, Writing.run_placed, pattern_eq,
    LetterCase.keyword_eq]
  simp [hfixed.2, String.append_assoc]

lemma pagingTemplates_isWrittenBy (keyword : String) (n : Option Int64) (values : List Value) :
    (paging keyword n).run values =
      (String.join ((texts values.length (pagingTemplates keyword n)).map (" " ++ ·)),
        values ++ (pagingTemplates keyword n).flatMap params) := by
  cases n with
  | none =>
    rw [paging, Writing.run_pure]
    simp [pagingTemplates, texts]
  | some n =>
    by_cases hn : 0 < n
    · simp only [paging, if_pos hn, Writing.run_bind, Writing.run_pure, Writing.run_placed]
      simp [pagingTemplates, hn, texts, String.append_assoc]
    · simp only [paging, if_neg hn, Writing.run_pure]
      simp [pagingTemplates, hn, texts]

lemma mapM_params {α : Type} {term : α → Except Refusal Template} {values : α → List Value}
    (hterm : ∀ part t, term part = .ok t → t.params = values part) {parts : List α}
    {ts : List Template} (h : parts.mapM term = .ok ts) :
    ts.flatMap params = parts.flatMap values := by
  have hparts := mapM_eq_ok_iff.mp h
  induction hparts with
  | nil => rfl
  | cons hpart hrest ih =>
    rw [List.flatMap_cons, List.flatMap_cons, hterm _ _ hpart, ih (mapM_eq_ok_iff.mpr hrest)]

lemma Predicate.params_term {p : Predicate} {t : Template} (h : p.term = .ok t) :
    t.params = if p.value.isNull then [] else [p.value] := by
  obtain ⟨-, column, -, -, rfl⟩ := term_eq_ok_iff.mp h
  rw [template]
  split_ifs <;> simp

lemma predicates_values (filter : Filter) :
    (filter.flatMap fun p => if p.value.isNull then [] else [p.value]) =
      (filter.map Predicate.value).filter fun v => !v.isNull := by
  induction filter with
  | nil => rfl
  | cons p filter ih => cases hnull : p.value.isNull <;> simp [hnull, ih]

lemma MemberList.params_term {negated : Bool} {m : MemberList} {t : Template}
    (h : m.term negated = .ok t) : t.params = m.values := by
  obtain ⟨column, -, rfl⟩ := term_eq_ok_iff.mp h
  rw [template]
  by_cases hempty : m.values.isEmpty = true
  · rw [if_pos hempty, List.isEmpty_iff.mp hempty, params_text]
  · simp [hempty, params_slots]

lemma TextMatch.params_term {letterCase : LetterCase} {m : TextMatch} {t : Template}
    (h : m.term letterCase = .ok t) :
    t.params = [.text (Reference.pattern m.side m.text)] := by
  obtain ⟨column, -, rfl⟩ := term_eq_ok_iff.mp h
  simp [template, pattern_eq]

lemma params_pagingTemplates (keyword : String) (n : Option Int64) :
    (pagingTemplates keyword n).flatMap params = (n.toList.filter (0 < ·)).map Value.int := by
  rw [pagingTemplates, List.flatMap_map, List.map_eq_flatMap]
  rfl

end Terms

namespace Query

/-- The sections in front of the conditions. -/
def layoutFront (body : Clause.Kind → List Template) : Template :=
  .text "SELECT " ++ .linked ((body .column).map (", ", ·)) ++
    .headed " FROM " ((body .table).map (", ", ·)) ++
    .headed " " ((body .join).map (" ", ·))

/-- The sections behind the conditions. -/
def layoutRest (body : Clause.Kind → List Template) : Template :=
  .headed " GROUP BY " ((body .group).map (", ", ·)) ++
    .headed " HAVING " ((body .orHaving).map (" OR ", ·)) ++
    .headed " ORDER BY " ((body .order).map (", ", ·)) ++
    .headed " " ((body .paging).map (" ", ·))

lemma layout_eq (body : Clause.Kind → List Template) :
    layout body = layoutFront body ++ .headed " WHERE " (Section.condition.links body) ++
      layoutRest body := by
  simp only [layout, layoutFront, layoutRest, Template.append_assoc]

section Layout

variable {settings : Settings} {q : Query} {body : Clause.Kind → List Template}

lemma columns_isFixed (hbody : ∀ kind, q.terms settings kind = .ok (body kind)) :
    (Template.linked ((body .column).map (", ", ·))).IsFixed
      (if q.columns.isEmpty then "*" else linked (q.columns.map fun s => (", ", trimmed s))) := by
  have hcolumn := hbody .column
  rw [terms] at hcolumn
  split_ifs at hcolumn ⊢
  · rw [← Except.ok.inj hcolumn]
    exact ⟨rfl, fun count => by simp [Template.linked, Template.continued]⟩
  · exact linked_isFixed (fun _ _ => expressionTerm_isFixed) hcolumn ", "

lemma front_isFixed (hbody : ∀ kind, q.terms settings kind = .ok (body kind)) :
    (layoutFront body).IsFixed q.front := by
  have hfrom : headed " FROM " ([q.table].map fun s => (", ", normalized s)) =
      " FROM " ++ normalized q.table := by
    simp [headed, linked]
  have hjoins : headed " " (q.joins.map fun j => (" ", j.written)) =
      String.join (q.joins.map (" " ++ ·.written)) := by
    simpa [Function.comp_def] using Reference.headed_eq_join " " (q.joins.map Join.written)
  have htext : q.front = "SELECT " ++
      (if q.columns.isEmpty then "*" else linked (q.columns.map fun s => (", ", trimmed s))) ++
      headed " FROM " ([q.table].map fun s => (", ", normalized s)) ++
      headed " " (q.joins.map fun j => (" ", j.written)) := by
    simp only [front, hfrom, hjoins, String.append_assoc]
  rw [htext]
  exact (((Template.isFixed_text "SELECT ").append (columns_isFixed hbody)).append
    (headed_isFixed (fun _ _ => tableTerm_isFixed) (hbody .table) " FROM " ", ")).append
      (headed_isFixed (fun _ _ => Join.term_isFixed) (hbody .join) " " " ")

lemma paging_eq (hbody : ∀ kind, q.terms settings kind = .ok (body kind)) :
    body .paging = pagingTemplates "LIMIT" q.limit ++ pagingTemplates "OFFSET" q.offset := by
  obtain ⟨limit, hlimit, h⟩ := bind_eq_ok_iff.mp (hbody .paging)
  obtain ⟨offset, hoffset, h⟩ := bind_eq_ok_iff.mp h
  rw [pure_eq_ok_iff] at h
  rw [(pagingTerm_eq_ok_iff.mp hlimit).2, (pagingTerm_eq_ok_iff.mp hoffset).2, h]

lemma rest_isWrittenBy (hbody : ∀ kind, q.terms settings kind = .ok (body kind)) :
    (layoutRest body).IsWrittenBy q.rest := by
  obtain ⟨hgroupParams, hgroups⟩ :=
    headed_isFixed (fun _ _ => expressionTerm_isFixed) (hbody .group) " GROUP BY " ", "
  obtain ⟨horderParams, horders⟩ :=
    headed_isFixed (fun _ _ => expressionTerm_isFixed) (hbody .order) " ORDER BY " ", "
  have horHaving :=
    mapM_term_isWrittenBy (fun _ _ => Predicate.term_isWrittenBy) (hbody .orHaving)
  intro values
  simp only [rest, layoutRest, paging_eq hbody, Writing.run_bind, Writing.run_pure, horHaving,
    pagingTemplates_isWrittenBy]
  simp only [Template.sqlFrom_append, Template.params_append, hgroups, horders, hgroupParams,
    horderParams, Template.sqlFrom_headed, Template.params_headed, Template.linkTexts_map,
    Reference.headed_eq_join]
  simp only [Template.texts_append, List.map_append, String.join_append, List.flatMap_map,
    List.flatMap_append, List.length_append, List.length_nil, Nat.add_zero, Nat.add_assoc,
    List.nil_append, List.append_nil, List.append_assoc, String.append_assoc]

lemma params_layoutRest (hbody : ∀ kind, q.terms settings kind = .ok (body kind)) :
    (layoutRest body).params =
      (body .orHaving).flatMap Template.params ++ (body .paging).flatMap Template.params := by
  have hgroupParams :=
    (headed_isFixed (fun _ _ => expressionTerm_isFixed) (hbody .group) " GROUP BY " ", ").1
  have horderParams :=
    (headed_isFixed (fun _ _ => expressionTerm_isFixed) (hbody .order) " ORDER BY " ", ").1
  simp only [layoutRest, Template.params_append, hgroupParams, horderParams,
    Template.params_headed, List.flatMap_map, List.nil_append, List.append_nil]

/-- Only conditions, alternatives for groups and paging hold values. -/
theorem params_layout_eq_values (hbody : ∀ kind, q.terms settings kind = .ok (body kind)) :
    (layout body).params = q.values := by
  rw [layout_eq, Template.params_append, Template.params_append, (front_isFixed hbody).1,
    params_layoutRest hbody, Template.params_headed, Section.links_condition, paging_eq hbody]
  simp only [values, List.flatMap_append, List.flatMap_map, List.append_assoc, List.nil_append,
    mapM_params (fun _ _ => Predicate.params_term) (hbody .filter),
    mapM_params (fun _ _ => Predicate.params_term) (hbody .orFilter),
    mapM_params (fun _ _ => MemberList.params_term) (hbody .among),
    mapM_params (fun _ _ => MemberList.params_term) (hbody .notAmong),
    mapM_params (fun _ _ => TextMatch.params_term) (hbody .like),
    mapM_params (fun _ _ => TextMatch.params_term) (hbody .orLike),
    mapM_params (fun _ _ => Predicate.params_term) (hbody .orHaving), params_pagingTemplates,
    predicates_values, ← List.map_eq_flatMap]
  rfl

theorem written_run (hbody : ∀ kind, q.terms settings kind = .ok (body kind)) :
    (q.written settings).run [] = ((layout body).sql, (layout body).params) := by
  have hfilter := mapM_term_isWrittenBy (fun _ _ => Predicate.term_isWrittenBy) (hbody .filter)
  have horFilter :=
    mapM_term_isWrittenBy (fun _ _ => Predicate.term_isWrittenBy) (hbody .orFilter)
  have hamong := mapM_term_isWrittenBy (fun _ _ => MemberList.term_isWrittenBy) (hbody .among)
  have hnotAmong :=
    mapM_term_isWrittenBy (fun _ _ => MemberList.term_isWrittenBy) (hbody .notAmong)
  have hlike (values : List Value) :
      (q.like.mapM fun t =>
          search settings.letterCase t.column ("%" ++ literally t.text ++ "%")).run values =
        (Template.texts values.length (body .like),
          values ++ (body .like).flatMap Template.params) :=
    mapM_term_isWrittenBy (fun _ _ => TextMatch.term_isWrittenBy) (hbody .like) values
  have horLike := mapM_term_isWrittenBy (fun _ _ => TextMatch.term_isWrittenBy) (hbody .orLike)
  obtain ⟨hfrontParams, hfront⟩ := front_isFixed hbody
  rw [layout_eq, Template.sql_eq_sqlFrom]
  simp only [Template.sqlFrom_append, Template.params_append, hfront, hfrontParams,
    Template.sqlFrom_headed, Template.params_headed, Section.links_condition]
  simp only [written, Writing.run_bind, Writing.run_pure, hfilter, horFilter, hamong, hnotAmong,
    hlike, horLike, rest_isWrittenBy hbody _]
  simp only [Template.linkTexts_append, Template.linkTexts_map, List.map_append,
    List.flatMap_append, List.flatMap_map, List.length_append, List.length_nil, Nat.zero_add,
    Nat.add_assoc, List.nil_append, List.append_assoc, String.append_assoc]

end Layout

/-- The statement of a query, when it has one, is what the reference writes; its parameters are
the values that count. -/
theorem statement_eq_written {settings : Settings} {q : Query} {st : Statement}
    (h : (q.statement settings).outcome = .ok st) :
    (q.written settings).run [] = (st.sql, st.params) ∧ st.params = q.values := by
  obtain ⟨body, hbody, rfl⟩ := statement_layout h
  rw [Template.sql_statement, Template.params_statement]
  exact ⟨written_run hbody, params_layout_eq_values hbody⟩

/-- A query with something in every part. -/
def withEveryPart : Query where
  columns := [" id"]
  table := "users  AS u"
  joins := [⟨"cities c", "c.id = city", .left⟩]
  filter := [⟨"age", .ge, .int 18⟩, ⟨"gone", .eq, .null⟩]
  orFilter := [⟨"role", .eq, .text "admin"⟩]
  among := [⟨"city", [.int 1, .int 2]⟩, ⟨"kind", []⟩]
  notAmong := [⟨"id", [.int 7]⟩]
  like := [⟨"name", "50%", .before⟩]
  orLike := [⟨"mail", "x", .after⟩]
  groupBy := ["id"]
  orHaving := [⟨"COUNT(*)", .gt, .int 1⟩]
  orderBy := ["id ASC"]
  limit := some 10
  offset := some 20

theorem statement_eq_written_withEveryPart :
    ∃ st, (withEveryPart.statement {}).outcome = .ok st ∧
      st.sql = "SELECT id FROM users u LEFT JOIN cities c ON c.id = city WHERE age >= $1 " ++
        "AND gone IS NULL OR role = $2 AND city IN ($3, $4) AND 1=0 AND id NOT IN ($5) " ++
        "AND name ILIKE $6 OR mail ILIKE $7 GROUP BY id HAVING COUNT(*) > $8 ORDER BY id ASC " ++
        "LIMIT $9 OFFSET $10" ∧
      st.params = [.int 18, .text "admin", .int 1, .int 2, .int 7, .text "%50\\%%", .text "x%",
        .int 1, .int 10, .int 20] ∧
      (withEveryPart.written {}).run [] = (st.sql, st.params) := by
  refine Operation.exists_statement_of_sql (by decide +kernel) ?_
  intro st hst
  obtain ⟨hwritten, hvalues⟩ := statement_eq_written hst
  exact ⟨hvalues.trans rfl, hwritten⟩

end Query
end TableAccess
