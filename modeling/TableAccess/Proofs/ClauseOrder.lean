import TableAccess.Proofs.Layout

/-!
# The order of clauses

`Clause.arrange` groups clauses by kind and keeps the order within each kind, so lists that differ
only in how the kinds are interleaved are assembled alike. The kinds of a section are neighbours,
and therefore every section is started once at most: `Clause.blocks` cuts arranged clauses into
sections, and by `Clause.statement_arranged` they are written one after the other.
-/

namespace TableAccess

namespace Template

variable {t u t' u' : Template}

/-- Templates that are rendered alike, whatever precedes them. -/
def Same (t u : Template) : Prop :=
  (∀ count, t.sqlFrom count = u.sqlFrom count) ∧ t.params = u.params

lemma Same.refl (t : Template) : t.Same t :=
  ⟨fun _ => rfl, rfl⟩

lemma Same.append (h : t.Same u) (h' : t'.Same u') : (t ++ t').Same (u ++ u') := by
  refine ⟨fun count => ?_, by rw [params_append, params_append, h.2, h'.2]⟩
  rw [sqlFrom_append, sqlFrom_append, h.1, h'.1, h.2]

lemma same_text_append (r s : String) : (text (r ++ s)).Same (text r ++ text s) := by
  refine ⟨fun count => ?_, rfl⟩
  rw [sqlFrom_append, sqlFrom_text, sqlFrom_text, sqlFrom_text]

lemma Same.statement_eq (h : t.Same u) : t.statement = u.statement := by
  rw [statement, statement, sql_eq_sqlFrom, sql_eq_sqlFrom, h.1, h.2]

end Template

/-- The sections in the order of a statement. -/
def Section.all : List Section :=
  .columns :: Query.laterSections

/-- A section as it is written: its keyword and its clauses. -/
def Section.written (s : Section) (cs : List Clause) : Template :=
  .text s.start ++ .linked (cs.map Clause.link)

namespace Clause

/-! ### Arranging -/

variable {c : Clause} {cs ds : List Clause}

lemma place_append (hcs : ∀ d ∈ cs, d.kind.rank < c.kind.rank) :
    place c (cs ++ ds) = cs ++ place c ds := by
  induction cs with
  | nil => rfl
  | cons d cs ih =>
    obtain ⟨hd, hrest⟩ := List.forall_mem_cons.mp hcs
    rw [List.cons_append, place, if_neg (by omega), ih hrest, List.cons_append]

lemma place_of_le (hds : ∀ d ∈ ds, c.kind.rank ≤ d.kind.rank) : place c ds = c :: ds := by
  cases ds with
  | nil => rfl
  | cons d ds => rw [place, if_pos (hds d (by simp))]

/-- The templates of a kind, in the order of their clauses. -/
def bodies (cs : List Clause) (kind : Kind) : List Template :=
  (cs.filter (·.kind = kind)).map body

lemma bodies_cons_self (c : Clause) (cs : List Clause) :
    bodies (c :: cs) c.kind = c.body :: bodies cs c.kind := by
  simp [bodies]

lemma bodies_cons_of_ne {kind : Kind} (h : c.kind ≠ kind) (cs : List Clause) :
    bodies (c :: cs) kind = bodies cs kind := by
  simp [bodies, h]

/-- The clauses of some kinds, kind by kind. -/
def grouped (cs : List Clause) (kinds : List Kind) : List Clause :=
  kinds.flatMap fun kind => (bodies cs kind).map (Clause.mk kind)

lemma kind_mem_of_mem_grouped {kinds : List Kind} : ∀ d ∈ grouped cs kinds, d.kind ∈ kinds := by
  intro d hd
  obtain ⟨kind, hkind, hd⟩ := List.mem_flatMap.mp hd
  obtain ⟨t, -, rfl⟩ := List.mem_map.mp hd
  exact hkind

lemma grouped_cons_of_not_mem {kinds : List Kind} (h : c.kind ∉ kinds) :
    grouped (c :: cs) kinds = grouped cs kinds := by
  refine List.flatMap_congr ?_
  intro kind hkind
  rw [bodies_cons_of_ne (ne_of_mem_of_not_mem hkind h).symm]

/-- Clauses are arranged kind by kind, each kind in the order in which its clauses are found. -/
theorem arrange_eq_grouped (cs : List Clause) : arrange cs = grouped cs Kind.all := by
  induction cs with
  | nil => rfl
  | cons c cs ih =>
    have hall : Kind.all.Pairwise fun k l => k.rank < l.rank := by decide
    -- `c` goes behind the kinds before its own and in front of all that is left
    obtain ⟨front, back, hsplit⟩ := List.append_of_mem c.kind.mem_all
    rw [hsplit, List.pairwise_append, List.pairwise_cons] at hall
    obtain ⟨-, ⟨hback, -⟩, hfront⟩ := hall
    have hgrouped : ∀ ds, grouped ds (front ++ c.kind :: back) =
        grouped ds front ++ ((bodies ds c.kind).map (Clause.mk c.kind) ++ grouped ds back) := by
      intro ds
      rw [grouped, List.flatMap_append, List.flatMap_cons]
      rfl
    have hbefore : ∀ d ∈ grouped cs front, d.kind.rank < c.kind.rank := by
      intro d hd
      exact hfront _ (kind_mem_of_mem_grouped d hd) _ (by simp)
    have hbehind : ∀ d ∈ (bodies cs c.kind).map (Clause.mk c.kind) ++ grouped cs back,
        c.kind.rank ≤ d.kind.rank := by
      intro d hd
      rcases List.mem_append.mp hd with hd | hd
      · obtain ⟨t, -, rfl⟩ := List.mem_map.mp hd
        exact Nat.le_refl _
      · exact Nat.le_of_lt (hback _ (kind_mem_of_mem_grouped d hd))
    have hnotfront : c.kind ∉ front := fun h => Nat.lt_irrefl _ (hfront _ h _ (by simp))
    have hnotback : c.kind ∉ back := fun h => Nat.lt_irrefl _ (hback _ h)
    rw [arrange, ih, hsplit, hgrouped, hgrouped, place_append hbefore, place_of_le hbehind,
      grouped_cons_of_not_mem hnotfront, grouped_cons_of_not_mem hnotback, bodies_cons_self]
    rfl

/-! ### Sections -/

lemma flatMap_filter_ne_nil (blocks : List (Section × List Clause)) :
    (blocks.filter (·.2 ≠ [])).flatMap Prod.snd = blocks.flatMap Prod.snd := by
  induction blocks with
  | nil => rfl
  | cons b blocks ih =>
    by_cases hb : b.2 = [] <;> simp [hb, ← ih]

/-- The sections of clauses, in order. A section without clauses is left out. -/
def blocks (cs : List Clause) : List (Section × List Clause) :=
  (Section.all.map fun s => (s, s.clauses (bodies cs))).filter (·.2 ≠ [])

lemma blocks_sublist (cs : List Clause) : ((blocks cs).map Prod.fst).Sublist Section.all := by
  have hsublist := (List.filter_sublist (p := (·.2 ≠ []))
    (l := Section.all.map fun s => (s, s.clauses (bodies cs)))).map Prod.fst
  rw [List.map_map] at hsublist
  simpa [blocks, Function.comp_def] using hsublist

lemma of_mem_blocks {b : Section × List Clause} (hb : b ∈ blocks cs) :
    b.2 ≠ [] ∧ ∀ c ∈ b.2, Section.of c.kind = b.1 := by
  obtain ⟨hmem, hne⟩ := List.mem_filter.mp hb
  obtain ⟨s, -, rfl⟩ := List.mem_map.mp hmem
  exact ⟨by simpa using hne, Section.of_mem_clauses⟩

lemma flatMap_blocks (cs : List Clause) : (blocks cs).flatMap Prod.snd = arrange cs := by
  have hwith : grouped cs Kind.all = Query.clausesWith (bodies cs) := rfl
  rw [blocks, flatMap_filter_ne_nil, arrange_eq_grouped, hwith, Query.clausesWith_eq]
  rfl

/-- Sections behind another one have a blank in front of each. -/
lemma foldr_headed {blocks : List (Section × List Clause)} (hblocks : ∀ b ∈ blocks, b.2 ≠ []) :
    (blocks.foldr (fun b t => Template.headed (" " ++ b.1.start) (b.2.map link) ++ t) .empty).Same
      (.continued (blocks.map fun b => (" ", b.1.written b.2))) := by
  induction blocks with
  | nil => exact .refl _
  | cons b blocks ih =>
    obtain ⟨hb, hrest⟩ := List.forall_mem_cons.mp hblocks
    have hhead : Template.headed (" " ++ b.1.start) (b.2.map link) =
        .text (" " ++ b.1.start) ++ .linked (b.2.map link) := by
      rw [Template.headed, if_neg (by simpa using hb)]
    rw [List.foldr_cons, hhead, List.map_cons, Template.continued, Section.written,
      ← Template.append_assoc (.text " ")]
    exact ((Template.same_text_append " " b.1.start).append (.refl _)).append (ih hrest)

/-- Arranged clauses are written section by section, with a blank between two sections. -/
theorem statement_arranged (cs : List Clause) :
    (writeFrom none (arrange cs)).statement =
      (Template.joined " " ((blocks cs).map fun b => b.1.written b.2)).statement := by
  have hblocks : ∀ b ∈ blocks cs, b.2 ≠ [] ∧ ∀ c ∈ b.2, Section.of c.kind = b.1 :=
    fun b hb => of_mem_blocks hb
  have hnodup : ((blocks cs).map Prod.fst).Nodup := (blocks_sublist cs).nodup (by decide)
  rw [← flatMap_blocks]
  cases hcs : blocks cs with
  | nil => rfl
  | cons b rest =>
    rw [hcs] at hblocks hnodup
    obtain ⟨⟨hne, hsection⟩, hrest⟩ := List.forall_mem_cons.mp hblocks
    rw [List.flatMap_cons, writeFrom_append, writeFrom_none hne hsection,
      sectionBehind_none hne hsection, writeFrom_blocks (fun b hb => (hrest b hb).2) hnodup,
      ← Template.linked_eq_joined, List.map_map, List.map_cons]
    exact ((Template.Same.refl (b.1.written b.2)).append
      (foldr_headed fun b hb => (hrest b hb).1)).statement_eq

/-- Clauses are assembled alike however their kinds are interleaved: same text, same parameters,
same refusal, same events. The clauses that are written fall into sections, each of which is started
once at most and in the order of a statement. -/
theorem assemble_interleaved {cs ds : List Clause}
    (h : ∀ kind, cs.filter (·.kind = kind) = ds.filter (·.kind = kind)) (settings : Settings) :
    assemble settings cs = assemble settings ds ∧
    ∃ sections : List (Section × List Clause),
      (sections.map Prod.fst).Sublist Section.all ∧
      (∀ b ∈ sections, b.2 ≠ [] ∧ ∀ c ∈ b.2, Section.of c.kind = b.1) ∧
      sections.flatMap Prod.snd = arrange cs ∧
      ∀ t, (assemble settings cs).outcome = .ok t →
        t.statement = (Template.joined " " (sections.map fun b => b.1.written b.2)).statement := by
  have hbodies : bodies cs = bodies ds := by
    funext kind
    rw [bodies, bodies, h kind]
  have harrange : arrange cs = arrange ds := by
    rw [arrange_eq_grouped, arrange_eq_grouped, grouped, grouped, hbodies]
  refine ⟨by rw [assemble, assemble, harrange], blocks cs, blocks_sublist cs,
    fun _ hb => of_mem_blocks hb, flatMap_blocks cs, ?_⟩
  intro t ht
  rw [(assemble_eq_ok_iff.mp ht).2, statement_arranged]

/-- The limit may be found before the filter, as long as the filters keep their order. -/
theorem assemble_interleaved_limitFirst :
    let columns : Clause := ⟨.column, .text "name"⟩
    let table : Clause := ⟨.table, .text "users"⟩
    let limit : Clause := ⟨.paging, .text "LIMIT 1"⟩
    let adult : Clause := ⟨.filter, .text "age >= " ++ .slot (.int 18)⟩
    let known : Clause := ⟨.filter, .text "name IS NOT NULL"⟩
    let cs := [columns, table, limit, adult, known]
    let ds := [adult, limit, known, table, columns]
    (∀ kind, cs.filter (·.kind = kind) = ds.filter (·.kind = kind)) ∧
      assemble {} cs = assemble {} ds ∧
      ((assemble {} ds).outcome.map Template.sql).toOption =
        some "SELECT name FROM users WHERE age >= $1 AND name IS NOT NULL LIMIT 1" := by
  intro columns table limit adult known cs ds
  have hkinds : ∀ kind, cs.filter (·.kind = kind) = ds.filter (·.kind = kind) := by
    intro kind
    cases kind <;> rfl
  exact ⟨hkinds, (assemble_interleaved hkinds {}).1, by decide +kernel⟩

end Clause
end TableAccess
