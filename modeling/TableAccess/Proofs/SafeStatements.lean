import TableAccess.Proofs.Assembly
import TableAccess.Proofs.LexicalSafety
import TableAccess.Proofs.Terms

/-!
# Statements are lexically safe

`Template.Harmless` says that the text of a template is harmless behind any number of
placeholders. Checked names and expressions are; so are the terms made of them, the clauses made
of terms and the statements made of clauses.
-/

namespace TableAccess

/-- Fixed text that begins and ends with a spacer. -/
structure IsSpacing (opened closed : Nat) (cs : List Char) : Prop where
  plain : Lexeme.PlainText opened closed cs
  head : cs.head?.any Lexeme.isSpacer = true
  last : cs.getLast?.any Lexeme.isSpacer = true

instance (opened closed : Nat) (cs : List Char) : Decidable (IsSpacing opened closed cs) :=
  decidable_of_iff
    (Lexeme.PlainText opened closed cs ∧ cs.head?.any Lexeme.isSpacer = true ∧
      cs.getLast?.any Lexeme.isSpacer = true)
    ⟨fun h => ⟨h.1, h.2.1, h.2.2⟩, fun h => ⟨h.plain, h.head, h.last⟩⟩

namespace Template

/-- The text of a template is harmless, whatever number of placeholders precedes it. -/
def Harmless (opened closed : Nat) (t : Template) : Prop :=
  ∀ count, Lexeme.Harmless count t.params.length opened closed (t.sqlFrom count).toList

theorem harmless_text {opened closed : Nat} {s : String}
    (h : Lexeme.PlainText opened closed s.toList) : (text s).Harmless opened closed := by
  intro count
  simpa using h.harmless count

theorem harmless_slot (v : Value) (opened : Nat) : (slot v).Harmless opened opened := by
  intro count
  simpa using Lexeme.harmless_placeholder count opened

theorem harmless_identifier {i : Identifier} (h : i.IsProper) (opened : Nat) :
    (identifier i).Harmless opened opened := by
  intro count
  simpa [identifier, Identifier.sql] using Lexeme.harmless_parts h.1 h.2 count opened

theorem Harmless.deeper {opened closed : Nat} {t : Template} (h : t.Harmless opened closed)
    (depth : Nat) : t.Harmless (opened + depth) (closed + depth) :=
  fun count => (h count).deeper depth

/-- Text behind a template begins with a spacer. -/
theorem Harmless.append_text {opened middle closed : Nat} {t : Template} {s : String}
    (ht : t.Harmless opened middle) (hs : Lexeme.PlainText middle closed s.toList)
    (hhead : s.toList.head?.any Lexeme.isSpacer = true) :
    (t ++ text s).Harmless opened closed := by
  obtain ⟨c, hc, hspacer⟩ := (Option.any_eq_true _ _).mp hhead
  intro count
  have h := (ht count).append_of_head (hs.harmless _) hspacer hc
  simpa using h

/-- Text in front of a template ends with a spacer. -/
theorem Harmless.text_append {u : Template} {s : String} (hs : Lexeme.PlainText 0 0 s.toList)
    (hlast : s.toList.getLast?.any Lexeme.isSpacer = true) (hu : u.Harmless 0 0) :
    (text s ++ u).Harmless 0 0 := by
  obtain ⟨c, hc, hspacer⟩ := (Option.any_eq_true _ _).mp hlast
  intro count
  have h := (hs.harmless count).append_of_last (hu (count + 0)) hspacer hc
  simpa using h

/-- Text between two templates begins and ends with spacers. -/
theorem Harmless.spaced {opened outer inner closed : Nat} {t u : Template} {s : String}
    (ht : t.Harmless opened outer) (hs : IsSpacing outer inner s.toList)
    (hu : u.Harmless inner closed) : (t ++ text s ++ u).Harmless opened closed := by
  obtain ⟨c, hc, hspacer⟩ := (Option.any_eq_true _ _).mp hs.last
  have hfront := ht.append_text hs.plain hs.head
  intro count
  have hlast : ((t ++ text s).sqlFrom count).toList.getLast? = some c := by
    simp [List.getLast?_append, hc]
  have h := (hfront count).append_of_last (hu _) hspacer hlast
  simpa using h

theorem harmless_empty : empty.Harmless 0 0 := by
  have hplain : Lexeme.PlainText 0 0 [] := by decide
  exact fun count => hplain.harmless count

theorem Harmless.joined {ts : List Template} {separator : String}
    (hs : IsSpacing 0 0 separator.toList) (h : ∀ t ∈ ts, t.Harmless 0 0) :
    (joined separator ts).Harmless 0 0 := by
  induction ts with
  | nil => exact harmless_empty
  | cons t ts ih =>
    obtain ⟨ht, hts⟩ := List.forall_mem_cons.mp h
    cases ts with
    | nil => exact ht
    | cons u us => exact ht.spaced hs (ih hts)

theorem harmless_fragment {s : String} {f : Fragment} (h : Fragment.parse s = .ok f) :
    (fragment f).Harmless 0 0 := by
  obtain ⟨rfl, hf⟩ := (Fragment.parse_eq_ok_iff s f).mp h
  refine harmless_text ⟨?_, ?_, ?_⟩ <;> rw [String.toList_ofList]
  · exact hf.characters
  · intro sequence hs
    rw [Bool.eq_false_iff, ne_eq, Fragment.occurs_iff]
    exact hf.sequences sequence hs
  · exact (Fragment.balanced_iff _).mp hf.balanced

theorem harmless_table {s : String} {t : TableReference} (h : TableReference.parse s = .ok t) :
    (table t).Harmless 0 0 := by
  obtain ⟨htable, halias⟩ := TableReference.parse_isProper h
  obtain ⟨name, aliasName⟩ := t
  cases aliasName with
  | none => exact harmless_identifier htable 0
  | some other =>
    have hspaced := (harmless_identifier htable 0).spaced (s := " ") (by decide)
      (harmless_identifier (halias other rfl) 0)
    intro count
    simpa [table, TableReference.sql, identifier, String.append_assoc] using hspaced count

end Template

theorem expressionTerm_harmless {s : String} {t : Template} (h : expressionTerm s = .ok t) :
    t.Harmless 0 0 := by
  obtain ⟨f, hf, rfl⟩ := expressionTerm_eq_ok_iff.mp h
  exact Template.harmless_fragment hf

theorem tableTerm_harmless {s : String} {t : Template} (h : tableTerm s = .ok t) :
    t.Harmless 0 0 := by
  obtain ⟨r, hr, rfl⟩ := tableTerm_eq_ok_iff.mp h
  exact Template.harmless_table hr

theorem Predicate.term_harmless {p : Predicate} {t : Template} (h : p.term = .ok t) :
    t.Harmless 0 0 := by
  obtain ⟨-, column, hcolumn, -, rfl⟩ := term_eq_ok_iff.mp h
  have hfragment := Template.harmless_fragment hcolumn
  rw [template]
  split_ifs
  · exact hfragment.append_text (by decide) (by decide)
  · exact hfragment.append_text (by decide) (by decide)
  · refine hfragment.spaced ?_ (Template.harmless_slot p.value 0)
    cases p.comparison <;> decide

theorem MemberList.term_harmless {negated : Bool} {m : MemberList} {t : Template}
    (h : m.term negated = .ok t) : t.Harmless 0 0 := by
  obtain ⟨column, hcolumn, rfl⟩ := term_eq_ok_iff.mp h
  rw [template]
  by_cases hempty : m.values.isEmpty = true
  · rw [if_pos hempty]
    apply Template.harmless_text
    cases negated <;> decide
  · rw [if_neg hempty]
    have hslots : (Template.slots m.values).Harmless 0 0 := by
      refine Template.Harmless.joined (by decide) ?_
      intro u hu
      obtain ⟨v, -, rfl⟩ := List.mem_map.mp hu
      exact Template.harmless_slot v 0
    have hopened := (Template.harmless_fragment hcolumn).spaced (s := operator negated)
      (by cases negated <;> decide) (hslots.deeper 1)
    exact hopened.append_text (by decide) (by decide)

theorem TextMatch.term_harmless {letterCase : LetterCase} {m : TextMatch} {t : Template}
    (h : m.term letterCase = .ok t) : t.Harmless 0 0 := by
  obtain ⟨column, hcolumn, rfl⟩ := term_eq_ok_iff.mp h
  refine (Template.harmless_fragment hcolumn).spaced ?_ (Template.harmless_slot _ 0)
  cases letterCase <;> decide

theorem Join.term_harmless {j : Join} {t : Template} (h : j.term = .ok t) : t.Harmless 0 0 := by
  obtain ⟨table, condition, htable, hcondition, rfl⟩ := term_eq_ok_iff.mp h
  have hjoined : (Template.text (j.kind.sql ++ " ") ++ Template.table table).Harmless 0 0 := by
    refine Template.Harmless.text_append ?_ ?_ (Template.harmless_table htable)
    · cases j.kind <;> decide
    · cases j.kind <;> decide
  exact hjoined.spaced (by decide) (Template.harmless_fragment hcondition)

theorem pagingTerm_harmless {clause : String} (hclause : clause = "LIMIT" ∨ clause = "OFFSET")
    {n : Option Int64} {ts : List Template} (h : pagingTerm clause n = .ok ts) :
    ∀ t ∈ ts, t.Harmless 0 0 := by
  obtain ⟨-, rfl⟩ := pagingTerm_eq_ok_iff.mp h
  intro t ht
  obtain ⟨k, -, rfl⟩ := List.mem_map.mp ht
  refine Template.Harmless.text_append ?_ ?_ (Template.harmless_slot _ 0)
  · rcases hclause with rfl | rfl <;> decide
  · rcases hclause with rfl | rfl <;> decide

lemma mapM_harmless {α : Type} {term : α → Except Refusal Template} {parts : List α}
    {ts : List Template} (h : parts.mapM term = .ok ts)
    (hterm : ∀ part t, term part = .ok t → t.Harmless 0 0) : ∀ t ∈ ts, t.Harmless 0 0 := by
  intro t ht
  obtain ⟨part, -, hpart⟩ := exists_of_forall₂_mem (mapM_eq_ok_iff.mp h) ht
  exact hterm part t hpart

theorem Query.terms_harmless {settings : Settings} {q : Query} {kind : Clause.Kind}
    {ts : List Template} (h : q.terms settings kind = .ok ts) : ∀ t ∈ ts, t.Harmless 0 0 := by
  cases kind with
  | column =>
    rw [terms] at h
    split_ifs at h
    · rw [← Except.ok.inj h]
      intro t ht
      rw [List.mem_singleton.mp ht]
      exact Template.harmless_text (by decide)
    · exact mapM_harmless h fun _ _ => expressionTerm_harmless
  | table => exact mapM_harmless h fun _ _ => tableTerm_harmless
  | join => exact mapM_harmless h fun _ _ => Join.term_harmless
  | filter | orFilter | orHaving => exact mapM_harmless h fun _ _ => Predicate.term_harmless
  | among | notAmong => exact mapM_harmless h fun _ _ => MemberList.term_harmless
  | like | orLike => exact mapM_harmless h fun _ _ => TextMatch.term_harmless
  | group | order => exact mapM_harmless h fun _ _ => expressionTerm_harmless
  | paging =>
    obtain ⟨limit, hlimit, h⟩ := bind_eq_ok_iff.mp h
    obtain ⟨offset, hoffset, h⟩ := bind_eq_ok_iff.mp h
    rw [pure_eq_ok_iff] at h
    rw [← h]
    intro t ht
    rcases List.mem_append.mp ht with ht | ht
    · exact pagingTerm_harmless (Or.inl rfl) hlimit t ht
    · exact pagingTerm_harmless (Or.inr rfl) hoffset t ht

theorem Query.clauses_harmless {settings : Settings} {q : Query} {cs : List Clause}
    (h : q.clauses settings = .ok cs) : ∀ c ∈ cs, c.body.Harmless 0 0 := by
  obtain ⟨body, hbody, rfl⟩ := clauses_eq_ok_iff.mp h
  intro c hc
  obtain ⟨kind, -, hc⟩ := List.mem_flatMap.mp hc
  obtain ⟨t, ht, rfl⟩ := List.mem_map.mp hc
  exact terms_harmless (hbody kind) t ht

lemma clausesOf_harmless {α : Type} {kind : Clause.Kind} {term : α → Except Refusal Template}
    {parts : List α} {cs : List Clause} (h : clausesOf kind term parts = .ok cs)
    (hterm : ∀ part t, term part = .ok t → t.Harmless 0 0) : ∀ c ∈ cs, c.body.Harmless 0 0 := by
  obtain ⟨bodies, hbodies, rfl⟩ := clausesOf_eq_ok_iff.mp h
  intro c hc
  obtain ⟨t, ht, rfl⟩ := List.mem_map.mp hc
  exact mapM_harmless hbodies hterm t ht

theorem Criteria.clauses_harmless {criteria : Criteria} {cs : List Clause}
    (h : criteria.clauses = .ok cs) : ∀ c ∈ cs, c.body.Harmless 0 0 := by
  obtain ⟨filter, hfilter, h⟩ := bind_eq_ok_iff.mp h
  obtain ⟨among, hamong, h⟩ := bind_eq_ok_iff.mp h
  rw [pure_eq_ok_iff] at h
  rw [← h]
  intro c hc
  rcases List.mem_append.mp hc with hc | hc
  · exact clausesOf_harmless hfilter (fun _ _ => Predicate.term_harmless) c hc
  · exact clausesOf_harmless hamong (fun _ _ => MemberList.term_harmless) c hc

lemma Section.isSpacing_between (s : Section) (junction : Junction) :
    IsSpacing 0 0 (s.between junction).toList := by
  cases s <;> cases junction <;> decide

lemma Section.isSpacing_start (s : Section) : IsSpacing 0 0 (" " ++ s.start).toList := by
  cases s <;> decide

namespace Clause

lemma isSpacing_lead (before : Section) (kind : Clause.Kind) :
    IsSpacing 0 0 (lead (some before) kind).toList := by
  simp only [lead]
  split_ifs
  · exact Section.isSpacing_between _ _
  · exact Section.isSpacing_start _

lemma harmless_lead_none {t : Template} (ht : t.Harmless 0 0) (kind : Clause.Kind) :
    (.text (lead none kind) ++ t : Template).Harmless 0 0 := by
  by_cases hempty : lead none kind = ""
  · intro count
    rw [hempty]
    simpa using ht count
  · refine Template.Harmless.text_append ?_ ?_ ht
    · cases kind <;> decide
    · cases kind <;> first | decide | exact absurd rfl hempty

/-- Clauses go on writing behind a harmless template. -/
theorem writeFrom_harmless {t : Template} (ht : t.Harmless 0 0) (current : Section)
    {cs : List Clause} (hcs : ∀ c ∈ cs, c.body.Harmless 0 0) :
    (t ++ writeFrom (some current) cs).Harmless 0 0 := by
  -- each clause is moved to the template in front, so that its lead stands between two templates
  induction cs generalizing t current with
  | nil => rwa [writeFrom, Template.append_empty]
  | cons c cs ih =>
    obtain ⟨hc, hrest⟩ := List.forall_mem_cons.mp hcs
    rw [writeFrom, ← Template.append_assoc, ← Template.append_assoc]
    exact ih (ht.spaced (isSpacing_lead current c.kind) hc) _ hrest

theorem assemble_harmless {settings : Settings} {cs : List Clause} {t : Template}
    (h : (assemble settings cs).outcome = .ok t) (hcs : ∀ c ∈ cs, c.body.Harmless 0 0) :
    t.Harmless 0 0 := by
  obtain ⟨-, rfl⟩ := assemble_eq_ok_iff.mp h
  have harranged : ∀ c ∈ arrange cs, c.body.Harmless 0 0 :=
    fun c hc => hcs c (mem_arrange.mp hc)
  cases harrange : arrange cs with
  | nil => exact Template.harmless_empty
  | cons c rest =>
    rw [harrange] at harranged
    obtain ⟨hc, hrest⟩ := List.forall_mem_cons.mp harranged
    rw [writeFrom]
    exact writeFrom_harmless (harmless_lead_none hc c.kind) _ hrest

end Clause
end TableAccess
