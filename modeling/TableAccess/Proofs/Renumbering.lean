import TableAccess.Proofs.QueryText
import TableAccess.Proofs.Restriction
import TableAccess.Proofs.SafeStatements
import TableAccess.Text.Digits

/-!
# Placeholders behind other placeholders

A template that stands behind more placeholders has the same text but for the numbers of its own.
`Lexeme.raise?` raises these numbers in a text by reading its lexemes, and `Template.Renumbers`
says that this gives the text of a template behind more placeholders. Checked names and
expressions, their terms and chains of terms are such templates.
-/

namespace TableAccess
namespace Lexeme

/-- A lexeme with the number of a placeholder raised. -/
def raised (n : Nat) : Lexeme → Lexeme
  | placeholder digits => placeholder (Text.decimal (Text.value digits + n))
  | l => l

/-- A text with the number of each placeholder raised; none if a quote stays open. -/
def raise? (n : Nat) (s : String) : Option String :=
  (scan s.toList).map fun ls => String.ofList ((ls.map (raised n)).flatMap spelling)

/-- A dollar sign inside a name is no placeholder. -/
example : raise? 9 "a$1 = $1 AND b = $12" = some "a$1 = $10 AND b = $21" := by decide +kernel

lemma raised_toString (n k : Nat) :
    raised n (placeholder (toString k).toList) = placeholder (toString (k + n)).toList := by
  rw [raised, Text.toList_toString, Text.toList_toString, Text.value_decimal]

lemma map_raised_eq_self {n : Nat} {ls : List Lexeme} (h : ls.filterMap digits? = []) :
    ls.map (raised n) = ls := by
  induction ls with
  | nil => rfl
  | cons l ls ih => cases l <;> simp_all [digits?, raised]

end Lexeme

namespace Template

open Lexeme

/-- Behind more placeholders a template has the same lexemes, the placeholders raised by their
number. -/
def Renumbers (t : Template) : Prop :=
  ∀ count n, ∃ ls, scan (t.sqlFrom count).toList = some ls ∧
    scan (t.sqlFrom (count + n)).toList = some (ls.map (raised n))

theorem Renumbers.raise?_eq {t : Template} (h : t.Renumbers) (count n : Nat) :
    raise? n (t.sqlFrom count) = some (t.sqlFrom (count + n)) := by
  obtain ⟨ls, hls, hraised⟩ := h count n
  rw [raise?, hls, Option.map_some, spelling_of_scan hraised, String.ofList_toList]

/-- A template without slots has no placeholders to raise. -/
lemma IsFixed.renumbers {t : Template} {s : String} {opened closed : Nat} (h : t.IsFixed s)
    (ht : t.Harmless opened closed) : t.Renumbers := by
  obtain ⟨hparams, hsql⟩ := h
  intro count n
  obtain ⟨ls, hls, -⟩ := ht count
  have hnone : ls.filterMap digits? = [] := by
    rw [hls.tidy.placeholders, hparams]
    rfl
  have hscan := hls.scanned
  rw [hsql] at hscan
  exact ⟨ls, by rw [hsql, hscan], by rw [hsql, hscan, map_raised_eq_self hnone]⟩

lemma renumbers_text {s : String} {opened closed : Nat} (h : PlainText opened closed s.toList) :
    (text s).Renumbers :=
  IsFixed.renumbers ⟨rfl, fun count => sqlFrom_text count s⟩ (harmless_text h)

lemma renumbers_fragment {s : String} {f : Fragment} (h : Fragment.parse s = .ok f) :
    (fragment f).Renumbers :=
  (isFixed_fragment h).renumbers (harmless_fragment h)

lemma scan_slot (v : Value) (count : Nat) :
    scan ((slot v).sqlFrom count).toList = some [placeholder (toString (count + 1)).toList] := by
  have hdigits : ∀ c ∈ (toString (count + 1)).toList, c.isDigit = true := by
    intro c hc
    rw [Text.toList_toString] at hc
    exact Text.isDigit_of_mem_decimal hc
  rw [sqlFrom_slot, String.toList_append]
  exact scan_placeholder hdigits

lemma renumbers_slot (v : Value) : (slot v).Renumbers := by
  intro count n
  refine ⟨_, scan_slot v count, ?_⟩
  rw [scan_slot, List.map_singleton, raised_toString, Nat.add_right_comm]

lemma renumbers_empty : empty.Renumbers :=
  IsFixed.renumbers ⟨rfl, sqlFrom_empty⟩ harmless_empty

variable {t u : Template}

/-- Texts that are scanned each on its own are renumbered each on its own. -/
lemma Renumbers.append (ht : t.Renumbers) (hu : u.Renumbers)
    (hseam : ∀ i j ls ms, scan (t.sqlFrom i).toList = some ls →
      scan (u.sqlFrom j).toList = some ms →
      scan ((t.sqlFrom i).toList ++ (u.sqlFrom j).toList) = some (ls ++ ms)) :
    (t ++ u).Renumbers := by
  intro count n
  obtain ⟨ls, hls, hlsRaised⟩ := ht count n
  obtain ⟨ms, hms, hmsRaised⟩ := hu (count + t.params.length) n
  refine ⟨ls ++ ms, ?_, ?_⟩
  · rw [sqlFrom_append, String.toList_append]
    exact hseam _ _ ls ms hls hms
  · rw [sqlFrom_append, String.toList_append, List.map_append, Nat.add_right_comm]
    exact hseam _ _ _ _ hlsRaised hmsRaised

/-- A template that begins with a spacer may follow. -/
lemma Renumbers.append_of_head (ht : t.Renumbers) (hu : u.Renumbers) {c : Char}
    (hc : isSpacer c = true) (hhead : ∀ count, (u.sqlFrom count).toList.head? = some c) :
    (t ++ u).Renumbers :=
  ht.append hu fun _ j _ _ hls hms => scan_append_of_head hls hms hc (hhead j)

/-- Anything may follow a template that ends with a spacer. -/
lemma Renumbers.append_of_last (ht : t.Renumbers) (hu : u.Renumbers) {c : Char}
    (hc : isSpacer c = true) (hlast : ∀ count, (t.sqlFrom count).toList.getLast? = some c) :
    (t ++ u).Renumbers :=
  ht.append hu fun i _ _ _ hls hms => scan_append_of_last hls hms hc (hlast i)

lemma Renumbers.append_text {s : String} {opened closed : Nat} (ht : t.Renumbers)
    (hs : PlainText opened closed s.toList) (hhead : s.toList.head?.any isSpacer = true) :
    (t ++ text s).Renumbers := by
  obtain ⟨c, hc, hspacer⟩ := (Option.any_eq_true _ _).mp hhead
  exact ht.append_of_head (renumbers_text hs) hspacer fun count => by rw [sqlFrom_text, hc]

lemma Renumbers.spaced {s : String} {opened closed : Nat} (ht : t.Renumbers)
    (hs : IsSpacing opened closed s.toList) (hu : u.Renumbers) : (t ++ text s ++ u).Renumbers := by
  obtain ⟨c, hc, hspacer⟩ := (Option.any_eq_true _ _).mp hs.last
  refine (ht.append_text hs.plain hs.head).append_of_last hu hspacer ?_
  intro count
  simp [List.getLast?_append, hc]

lemma Renumbers.joined {separator : String} (hs : IsSpacing 0 0 separator.toList)
    {ts : List Template} (h : ∀ t ∈ ts, t.Renumbers) : (joined separator ts).Renumbers := by
  induction ts with
  | nil => exact renumbers_empty
  | cons t ts ih =>
    obtain ⟨ht, hts⟩ := List.forall_mem_cons.mp h
    cases ts with
    | nil => exact ht
    | cons u us => exact ht.spaced hs (ih hts)

end Template

open Template Lexeme

lemma Predicate.term_renumbers {p : Predicate} {t : Template} (h : p.term = .ok t) :
    t.Renumbers := by
  obtain ⟨-, column, hcolumn, -, rfl⟩ := term_eq_ok_iff.mp h
  have hfragment := renumbers_fragment hcolumn
  have hnull : PlainText 0 0 " IS NULL".toList := by decide
  have hgiven : PlainText 0 0 " IS NOT NULL".toList := by decide
  have hcomparison : IsSpacing 0 0 (" " ++ p.comparison.sql ++ " ").toList := by
    cases p.comparison <;> decide
  rw [template]
  split_ifs
  · exact hfragment.append_text hnull (by decide)
  · exact hfragment.append_text hgiven (by decide)
  · exact hfragment.spaced hcomparison (renumbers_slot p.value)

lemma MemberList.term_renumbers {negated : Bool} {m : MemberList} {t : Template}
    (h : m.term negated = .ok t) : t.Renumbers := by
  obtain ⟨column, hcolumn, rfl⟩ := term_eq_ok_iff.mp h
  rw [template]
  by_cases hempty : m.values.isEmpty = true
  · rw [if_pos hempty]
    have hconstant : PlainText 0 0 (if negated then "1=1" else "1=0").toList := by
      cases negated <;> decide
    exact renumbers_text hconstant
  · rw [if_neg hempty]
    have hslots : (slots m.values).Renumbers := by
      refine Renumbers.joined (by decide) ?_
      intro u hu
      obtain ⟨v, -, rfl⟩ := List.mem_map.mp hu
      exact renumbers_slot v
    have hopened : IsSpacing 0 1 (operator negated).toList := by cases negated <;> decide
    have hclosed : PlainText 1 0 ")".toList := by decide
    exact ((renumbers_fragment hcolumn).spaced hopened hslots).append_text hclosed (by decide)

lemma TextMatch.term_renumbers {letterCase : LetterCase} {m : TextMatch} {t : Template}
    (h : m.term letterCase = .ok t) : t.Renumbers := by
  obtain ⟨column, hcolumn, rfl⟩ := term_eq_ok_iff.mp h
  have hkeyword : IsSpacing 0 0 (" " ++ letterCase.keyword ++ " ").toList := by
    cases letterCase <;> decide
  exact (renumbers_fragment hcolumn).spaced hkeyword (renumbers_slot _)

namespace Restriction

variable {letterCase : LetterCase}

lemma term_renumbers {r : Restriction} {t : Template} (h : r.term letterCase = .ok t) :
    t.Renumbers := by
  cases r with
  | predicate p => exact p.term_renumbers h
  | member negated m => exact m.term_renumbers h
  | textMatch m => exact TextMatch.term_renumbers h

/-- The terms of restrictions take any number of placeholders in front of them. -/
theorem joined_renumbers {rs : List Restriction} {ts : List Template}
    (h : rs.mapM (term letterCase) = .ok ts) : (joined " AND " ts).Renumbers := by
  refine Renumbers.joined (by decide) ?_
  intro t ht
  obtain ⟨r, -, hr⟩ := exists_of_forall₂_mem (mapM_eq_ok_iff.mp h) ht
  exact r.term_renumbers hr

end Restriction
end TableAccess
