import TableAccess.Proofs.Outcome
import TableAccess.TableReference

/-!
# Parts of identifiers

Every part that `Identifier.parse` finds is `Identifier.Part.IsProper`: a plain name of letters,
digits, underscores and dollar signs, or a quoted name that is not empty. The identifiers of a
table reference are read in the same way.
-/

namespace TableAccess
namespace Identifier

/-- A plain name that stands for itself, or any name in quotes. -/
def Part.IsProper : Part → Prop
  | .plain name => ∃ c cs, name.toList = c :: cs ∧ beginsName c = true ∧
      ∀ d ∈ cs, continuesName d = true
  | .quoted name => name.toList ≠ [] ∧ '\x00' ∉ name.toList

/-- What is known of the part at a place of the reader. -/
def Place.IsProper : Place → Prop
  | .before => True
  | .plain name => ∃ c cs, name = c :: cs ∧ beginsName c = true ∧ ∀ d ∈ cs, continuesName d = true
  | .quoted name | .closing name => '\x00' ∉ name

lemma Place.plain_snoc {name : List Char} {c : Char} (h : (Place.plain name).IsProper)
    (hc : continuesName c = true) : (Place.plain (name ++ [c])).IsProper := by
  obtain ⟨d, ds, rfl, hd, hds⟩ := h
  refine ⟨d, ds ++ [c], rfl, hd, ?_⟩
  intro e he
  simp only [List.mem_append, List.mem_singleton] at he
  rcases he with he | rfl
  · exact hds e he
  · exact hc

lemma Part.isProper_plain {name : List Char} (h : (Place.plain name).IsProper) :
    (Part.plain (String.ofList name)).IsProper := by
  obtain ⟨c, cs, rfl, hc, hcs⟩ := h
  exact ⟨c, cs, by simp, hc, hcs⟩

lemma Part.isProper_quoted {name : List Char} (h : (Place.closing name).IsProper)
    (hname : ¬name.isEmpty = true) : (Part.quoted (String.ofList name)).IsProper := by
  simp only [Part.IsProper, String.toList_ofList]
  exact ⟨fun hempty => hname (by simp [hempty]), h⟩

lemma forall_isProper_snoc {parts : List Part} {part : Part} (hparts : ∀ p ∈ parts, p.IsProper)
    (hpart : part.IsProper) : ∀ p ∈ parts ++ [part], p.IsProper := by
  intro p hp
  simp only [List.mem_append, List.mem_singleton] at hp
  rcases hp with hp | rfl
  · exact hparts p hp
  · exact hpart

theorem read_isProper {text : String} {parts found : List Part} {place : Place} {cs : List Char}
    (h : read text parts place cs = .ok found) (hcs : '\x00' ∉ cs) (hplace : place.IsProper)
    (hparts : ∀ p ∈ parts, p.IsProper) : found ≠ [] ∧ ∀ p ∈ found, p.IsProper := by
  induction cs generalizing parts place with
  | nil =>
    cases place with
    | before | quoted name => simp [read] at h
    | plain name =>
      simp only [read, Except.ok.injEq] at h
      rw [← h]
      exact ⟨by simp, forall_isProper_snoc hparts (Part.isProper_plain hplace)⟩
    | closing name =>
      simp only [read] at h
      split_ifs at h with hname
      simp only [Except.ok.injEq] at h
      rw [← h]
      exact ⟨by simp, forall_isProper_snoc hparts (Part.isProper_quoted hplace hname)⟩
  | cons c cs ih =>
    simp only [List.mem_cons, not_or] at hcs
    obtain ⟨hc, hrest⟩ := hcs
    cases place with
    | before =>
      simp only [read] at h
      split_ifs at h with hq hdot hbegins
      · exact ih h hrest (by simp [Place.IsProper]) hparts
      · exact ih h hrest ⟨c, [], rfl, hbegins, by simp⟩ hparts
    | plain name =>
      simp only [read] at h
      split_ifs at h with hdot hcontinues
      · exact ih h hrest trivial (forall_isProper_snoc hparts (Part.isProper_plain hplace))
      · exact ih h hrest (Place.plain_snoc hplace hcontinues) hparts
    | quoted name =>
      simp only [read] at h
      split_ifs at h with hq
      · exact ih h hrest hplace hparts
      · exact ih h hrest (by simpa [Place.IsProper] using ⟨hplace, hc⟩) hparts
    | closing name =>
      simp only [read] at h
      split_ifs at h with hq hname hdot
      · exact ih h hrest (by simpa [Place.IsProper] using ⟨hplace, hc⟩) hparts
      · exact ih h hrest trivial (forall_isProper_snoc hparts (Part.isProper_quoted hplace hname))

/-- An identifier with at least one part, all of which are well formed. -/
def IsProper (i : Identifier) : Prop :=
  i.parts ≠ [] ∧ ∀ p ∈ i.parts, p.IsProper

theorem parse_isProper {s : String} {i : Identifier} (h : parse s = .ok i) : i.IsProper := by
  rw [parse] at h
  split_ifs at h with hempty hnul
  cases hread : read s [] .before s.toList with
  | error e => simp [hread, Except.map] at h
  | ok found =>
    simp only [hread, Except.map, Except.ok.injEq] at h
    rw [← h]
    exact read_isProper hread (by simpa using hnul) trivial (by simp)

end Identifier

namespace TableReference

lemma parseAlias_isProper {s : String} {i : Identifier} (h : parseAlias s = .ok i) :
    i.IsProper := by
  obtain ⟨name, hname, h⟩ := bind_eq_ok_iff.mp h
  split_ifs at h
  rw [pure_eq_ok_iff] at h
  rw [← h]
  exact Identifier.parse_isProper hname

theorem parse_isProper {s : String} {t : TableReference} (h : parse s = .ok t) :
    t.table.IsProper ∧ ∀ i ∈ t.aliasName, i.IsProper := by
  rw [parse] at h
  split at h
  · simp at h
  · obtain ⟨table, htable, h⟩ := bind_eq_ok_iff.mp h
    rw [pure_eq_ok_iff] at h
    rw [← h]
    exact ⟨Identifier.parse_isProper htable, by simp⟩
  · obtain ⟨name, hname, h⟩ := bind_eq_ok_iff.mp h
    obtain ⟨table, htable, h⟩ := bind_eq_ok_iff.mp h
    rw [pure_eq_ok_iff] at h
    rw [← h]
    refine ⟨Identifier.parse_isProper htable, ?_⟩
    intro i hi
    rw [Option.mem_def, Option.some.injEq] at hi
    rw [← hi]
    exact parseAlias_isProper hname

end TableReference
end TableAccess
