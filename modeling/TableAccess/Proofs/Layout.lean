import TableAccess.Proofs.Assembly
import TableAccess.Proofs.Operation

/-!
# The layout of a query

A section is written as its keyword and its terms, each but the first behind the text that
attaches it. `Clause.writeFrom_blocks` says so for clauses that come section by section, and
`Query.statement_layout` for the statement of a query.
-/

namespace TableAccess
namespace Template

/-- Templates behind another one, each behind a text of its own. -/
def continued : List (String × Template) → Template
  | [] => .empty
  | (s, t) :: links => .text s ++ t ++ continued links

/-- Templates one behind the other; the text of the first one is left out. -/
def linked : List (String × Template) → Template
  | [] => .empty
  | (_, t) :: links => t ++ continued links

/-- Linked templates behind a keyword; nothing if there are none. -/
def headed (keyword : String) (links : List (String × Template)) : Template :=
  if links.isEmpty then .empty else .text keyword ++ linked links

@[simp] lemma headed_cons (keyword s : String) (t : Template) (links : List (String × Template)) :
    headed keyword ((s, t) :: links) = .text keyword ++ (t ++ continued links) := rfl

lemma linked_eq_joined (separator : String) (ts : List Template) :
    linked (ts.map (separator, ·)) = joined separator ts := by
  induction ts with
  | nil => rfl
  | cons t ts ih =>
    cases ts with
    | nil => simp [linked, continued, joined]
    | cons u us =>
      rw [joined, ← ih]
      · simp [linked, continued, append_assoc]
      · simp

end Template

namespace Clause

/-- A clause as a link of the chain that its section is. -/
def link (c : Clause) : String × Template :=
  ((Section.of c.kind).between c.kind.junction, c.body)

lemma writeFrom_continued {s : Section} {cs : List Clause}
    (hcs : ∀ c ∈ cs, Section.of c.kind = s) :
    writeFrom (some s) cs = .continued (cs.map link) := by
  induction cs with
  | nil => rfl
  | cons c cs ih =>
    obtain ⟨hc, hrest⟩ := List.forall_mem_cons.mp hcs
    rw [writeFrom, hc, ih hrest, List.map_cons, link, Template.continued, lead]
    simp only [hc, if_true]

lemma writeFrom_headed {current s : Section} (hne : current ≠ s) {cs : List Clause}
    (hcs : ∀ c ∈ cs, Section.of c.kind = s) :
    writeFrom (some current) cs = .headed (" " ++ s.start) (cs.map link) := by
  cases cs with
  | nil => rfl
  | cons c cs =>
    obtain ⟨hc, hrest⟩ := List.forall_mem_cons.mp hcs
    rw [writeFrom, hc, writeFrom_continued hrest, List.map_cons, link, Template.headed_cons, lead]
    simp only [hc, if_neg hne, Template.append_assoc]

lemma sectionBehind_of_section {current s : Section} {cs : List Clause}
    (hcs : ∀ c ∈ cs, Section.of c.kind = s) :
    sectionBehind (some current) cs = some current ∨ sectionBehind (some current) cs = some s := by
  induction cs generalizing current with
  | nil => exact Or.inl rfl
  | cons c cs ih =>
    obtain ⟨hc, hrest⟩ := List.forall_mem_cons.mp hcs
    rw [sectionBehind, hc]
    exact Or.inr ((ih hrest).elim id id)

lemma writeFrom_none {s : Section} {cs : List Clause} (hne : cs ≠ [])
    (hcs : ∀ c ∈ cs, Section.of c.kind = s) :
    writeFrom none cs = .text s.start ++ .linked (cs.map link) := by
  cases cs with
  | nil => exact absurd rfl hne
  | cons c cs =>
    obtain ⟨hc, hrest⟩ := List.forall_mem_cons.mp hcs
    rw [writeFrom, hc, writeFrom_continued hrest, List.map_cons, link, Template.linked, lead]
    simp only [hc, Template.append_assoc]

lemma sectionBehind_none {s : Section} {cs : List Clause} (hne : cs ≠ [])
    (hcs : ∀ c ∈ cs, Section.of c.kind = s) : sectionBehind none cs = some s := by
  cases cs with
  | nil => exact absurd rfl hne
  | cons c cs =>
    obtain ⟨hc, hrest⟩ := List.forall_mem_cons.mp hcs
    rw [sectionBehind, hc]
    exact (sectionBehind_of_section hrest).elim id id

/-- Clauses that come section by section, no section twice, are written section by section. -/
theorem writeFrom_blocks {current : Section} {blocks : List (Section × List Clause)}
    (hblocks : ∀ b ∈ blocks, ∀ c ∈ b.2, Section.of c.kind = b.1)
    (hdistinct : (current :: blocks.map Prod.fst).Nodup) :
    writeFrom (some current) (blocks.flatMap Prod.snd) =
      blocks.foldr (fun b t => .headed (" " ++ b.1.start) (b.2.map link) ++ t) .empty := by
  induction blocks generalizing current with
  | nil => rfl
  | cons b blocks ih =>
    obtain ⟨hb, hrest⟩ := List.forall_mem_cons.mp hblocks
    simp only [List.map_cons, List.nodup_cons, List.mem_cons, not_or] at hdistinct
    obtain ⟨⟨hne, hcurrent⟩, hnew, hnodup⟩ := hdistinct
    rw [List.flatMap_cons, writeFrom_append, writeFrom_headed hne hb, List.foldr_cons]
    congr 1
    -- an empty block leaves the section as it is; no later block has either of the two
    have hbehind : sectionBehind (some current) b.2 = some current ∨
        sectionBehind (some current) b.2 = some b.1 := sectionBehind_of_section hb
    rcases hbehind with hbehind | hbehind
    · rw [hbehind, ih hrest (List.nodup_cons.mpr ⟨hcurrent, hnodup⟩)]
    · rw [hbehind, ih hrest (List.nodup_cons.mpr ⟨hnew, hnodup⟩)]

end Clause

namespace Section

/-- The kinds of the clauses of a section, in order. -/
def kinds (s : Section) : List Clause.Kind :=
  Clause.Kind.all.filter fun kind => Section.of kind = s

lemma kinds_columns : columns.kinds = [.column] := by decide

lemma kinds_table : table.kinds = [.table] := by decide

lemma kinds_joins : joins.kinds = [.join] := by decide

lemma kinds_condition :
    condition.kinds = [.filter, .orFilter, .among, .notAmong, .like, .orLike] := by decide

lemma kinds_groups : groups.kinds = [.group] := by decide

lemma kinds_having : having.kinds = [.orHaving] := by decide

lemma kinds_order : order.kinds = [.order] := by decide

lemma kinds_paging : paging.kinds = [.paging] := by decide

/-- The terms of a section, each behind the text that attaches it. -/
def links (body : Clause.Kind → List Template) (s : Section) : List (String × Template) :=
  s.kinds.flatMap fun kind => (body kind).map (s.between kind.junction, ·)

/-- The clauses of a section. -/
def clauses (body : Clause.Kind → List Template) (s : Section) : List Clause :=
  s.kinds.flatMap fun kind => (body kind).map (Clause.mk kind)

lemma of_mem_kinds {s : Section} {kind : Clause.Kind} (h : kind ∈ s.kinds) :
    Section.of kind = s := by
  simpa [kinds] using (List.mem_filter.mp h).2

lemma of_mem_clauses {body : Clause.Kind → List Template} {s : Section} :
    ∀ c ∈ s.clauses body, Section.of c.kind = s := by
  intro c hc
  obtain ⟨kind, hkind, hc⟩ := List.mem_flatMap.mp hc
  obtain ⟨t, -, rfl⟩ := List.mem_map.mp hc
  exact of_mem_kinds hkind

lemma map_link_clauses (body : Clause.Kind → List Template) (s : Section) :
    (s.clauses body).map Clause.link = s.links body := by
  rw [clauses, links, List.map_flatMap]
  refine List.flatMap_congr ?_
  intro kind hkind
  rw [List.map_map]
  refine List.map_congr_left ?_
  intro t _
  simp only [Function.comp, Clause.link, of_mem_kinds hkind]

lemma links_of_kinds {s : Section} {kind : Clause.Kind} (h : s.kinds = [kind])
    (body : Clause.Kind → List Template) :
    s.links body = (body kind).map (s.between kind.junction, ·) := by
  rw [links, h, List.flatMap_singleton]

lemma links_condition (body : Clause.Kind → List Template) :
    Section.condition.links body =
      (body .filter).map (" AND ", ·) ++ (body .orFilter).map (" OR ", ·) ++
        (body .among ++ body .notAmong ++ body .like).map (" AND ", ·) ++
          (body .orLike).map (" OR ", ·) := by
  simp [links, kinds_condition, between, Clause.Kind.junction]

end Section

namespace Query

/-- A query as it is written, section by section. -/
def layout (body : Clause.Kind → List Template) : Template :=
  .text "SELECT " ++ .linked ((body .column).map (", ", ·)) ++
    .headed " FROM " ((body .table).map (", ", ·)) ++
    .headed " " ((body .join).map (" ", ·)) ++
    .headed " WHERE " (Section.condition.links body) ++
    .headed " GROUP BY " ((body .group).map (", ", ·)) ++
    .headed " HAVING " ((body .orHaving).map (" OR ", ·)) ++
    .headed " ORDER BY " ((body .order).map (", ", ·)) ++
    .headed " " ((body .paging).map (" ", ·))

/-- The sections behind the columns, in order. -/
def laterSections : List Section :=
  [.table, .joins, .condition, .groups, .having, .order, .paging]

lemma clausesWith_eq (body : Clause.Kind → List Template) :
    clausesWith body = Section.columns.clauses body ++
      (laterSections.map fun s => (s, s.clauses body)).flatMap Prod.snd := by
  have hall : Clause.Kind.all = Section.columns.kinds ++ laterSections.flatMap Section.kinds := by
    decide
  rw [clausesWith, hall, List.flatMap_append, List.flatMap_assoc, List.flatMap_map]
  rfl

theorem writeFrom_clausesWith {body : Clause.Kind → List Template} (hcolumn : body .column ≠ []) :
    Clause.writeFrom none (clausesWith body) = layout body := by
  have hne : Section.columns.clauses body ≠ [] := by
    simpa [Section.clauses, Section.kinds_columns] using hcolumn
  have hcolumns : ∀ c ∈ Section.columns.clauses body, Section.of c.kind = .columns :=
    Section.of_mem_clauses
  rw [clausesWith_eq, Clause.writeFrom_append, Clause.writeFrom_none hne hcolumns,
    Clause.sectionBehind_none hne hcolumns, Clause.writeFrom_blocks]
  · simp only [laterSections, List.map_cons, List.map_nil, List.foldr_cons, List.foldr_nil,
      Section.map_link_clauses, layout, Template.append_assoc, Template.append_empty,
      Section.links_of_kinds Section.kinds_columns, Section.links_of_kinds Section.kinds_table,
      Section.links_of_kinds Section.kinds_joins, Section.links_of_kinds Section.kinds_groups,
      Section.links_of_kinds Section.kinds_having, Section.links_of_kinds Section.kinds_order,
      Section.links_of_kinds Section.kinds_paging]
    rfl
  · intro b hb
    obtain ⟨s, -, rfl⟩ := List.mem_map.mp hb
    exact Section.of_mem_clauses
  · simp [laterSections]

lemma terms_column_ne_nil {settings : Settings} {q : Query} {ts : List Template}
    (h : q.terms settings .column = .ok ts) : ts ≠ [] := by
  rw [terms] at h
  split_ifs at h with hempty
  · rw [← Except.ok.inj h]
    simp
  · have hlength := length_of_mapM h
    rintro rfl
    exact hempty (by simpa using hlength.symm)

theorem statement_layout {settings : Settings} {q : Query} {st : Statement}
    (h : (q.statement settings).outcome = .ok st) :
    ∃ body : Clause.Kind → List Template,
      (∀ kind, q.terms settings kind = .ok (body kind)) ∧ (layout body).statement = st := by
  obtain ⟨cs, hcs, t, ht, rfl⟩ := statement_eq_ok_iff.mp h
  obtain ⟨body, hbody, rfl⟩ := clauses_eq_ok_iff.mp hcs
  obtain ⟨-, rfl⟩ := Clause.assemble_eq_ok_iff.mp ht
  refine ⟨body, hbody, ?_⟩
  rw [arrange_clausesWith, writeFrom_clausesWith (terms_column_ne_nil (hbody .column))]

end Query
end TableAccess
