import Mathlib.Tactic.SplitIfs
import TableAccess.Proofs.Blanks
import TableAccess.Query.Predicate

/-!
# Keys of predicates

A key is a column with an operator behind it. `Predicate.IsKeyedBy` lists the keys of a predicate
without saying how they are read: blanks may stand before the operator, equality needs none, and a
column may end in a sign of an operator where the two cannot run together. Each of these keys is
read back as its predicate.
-/

namespace TableAccess
namespace Comparison

/-- The ways to write an operator. -/
def spellings : Comparison → List String
  | eq => ["="]
  | ne => ["!=", "<>"]
  | gt => [">"]
  | ge => [">="]
  | lt => ["<"]
  | le => ["<="]

section Split

variable {front : List Char}

lemma before?_single (a c : Char) :
    before? [a] (front ++ [c]) = if a = c then some front else none := by
  simp [before?, List.isSuffixOf, List.isPrefixOf]

lemma before?_pair (a b c : Char) :
    before? [a, b] (front ++ [c]) =
      if b = c ∧ front.getLast? = some a then some front.dropLast else none := by
  obtain rfl | ⟨es, e, rfl⟩ := front.eq_nil_or_concat
  · simp [before?, List.isSuffixOf, List.isPrefixOf]
  · simp [before?, List.isSuffixOf, List.isPrefixOf, eq_comm (a := a)]

/-- What is found at the end of a text depends on its last two characters. -/
lemma splitEnd_concat (c : Char) :
    splitEnd (front ++ [c]) =
      if c = '=' ∧ front.getLast? = some '!' then (Text.trimEnd front.dropLast, ne)
      else if c = '>' ∧ front.getLast? = some '<' then (Text.trimEnd front.dropLast, ne)
      else if c = '=' ∧ front.getLast? = some '>' then (Text.trimEnd front.dropLast, ge)
      else if c = '=' ∧ front.getLast? = some '<' then (Text.trimEnd front.dropLast, le)
      else if c = '=' then (Text.trimEnd front, eq)
      else if c = '>' then (Text.trimEnd front, gt)
      else if c = '<' then (Text.trimEnd front, lt)
      else (front ++ [c], eq) := by
  simp only [splitEnd, symbols, List.findSome?_cons, List.findSome?_nil]
  simp only [String.reduceToList, before?_pair, before?_single, Option.map_if]
  simp only [eq_comm (b := c)]
  split_ifs <;> rfl

/-- An operator at the end of a text is found unless what stands before it makes it another. -/
lemma splitEnd_append_spelling {comparison : Comparison} {symbol : String}
    (hsymbol : symbol ∈ comparison.spellings)
    (hlast : ∀ c ∈ front.getLast?, c ≠ '!' ∧ c ≠ '<' ∧ c ≠ '>') :
    splitEnd (front ++ symbol.toList) = (Text.trimEnd front, comparison) := by
  have hends : front.getLast? ≠ some '!' ∧ front.getLast? ≠ some '<' ∧
      front.getLast? ≠ some '>' :=
    ⟨fun h => (hlast _ h).1 rfl, fun h => (hlast _ h).2.1 rfl, fun h => (hlast _ h).2.2 rfl⟩
  have htwo (a b : Char) : front ++ [a, b] = front ++ [a] ++ [b] := by simp
  cases comparison <;> simp only [spellings, List.mem_cons, List.not_mem_nil, or_false] at hsymbol
  case ne =>
    rcases hsymbol with rfl | rfl
    all_goals
      simp only [String.reduceToList]
      rw [htwo, splitEnd_concat]
      simp
  case ge | le =>
    subst hsymbol
    simp only [String.reduceToList]
    rw [htwo, splitEnd_concat]
    simp
  case eq | gt | lt =>
    subst hsymbol
    simp only [String.reduceToList]
    rw [splitEnd_concat]
    simp [hends]

lemma splitEnd_eq_self (hlast : ∀ c ∈ front.getLast?, c ≠ '=' ∧ c ≠ '<' ∧ c ≠ '>') :
    splitEnd front = (front, eq) := by
  obtain rfl | ⟨es, e, rfl⟩ := front.eq_nil_or_concat
  · rfl
  · have he := hlast e (by simp)
    simp [splitEnd_concat, he]

lemma isTrimmed_of_mem_spellings {comparison : Comparison} {symbol : String}
    (hsymbol : symbol ∈ comparison.spellings) :
    symbol.toList ≠ [] ∧ Text.IsTrimmed symbol.toList := by
  have hall : ∀ s ∈ comparison.spellings, s.toList ≠ [] ∧
      s.toList.head?.all (!Text.isBlank ·) ∧ s.toList.getLast?.all (!Text.isBlank ·) := by
    cases comparison <;> decide
  obtain ⟨hne, hhead, hlast⟩ := hall symbol hsymbol
  exact ⟨hne, by simpa [Option.all_eq_true] using hhead, by simpa [Option.all_eq_true] using hlast⟩

/-- Neither the blanks before an operator nor those before a column that is empty are kept. -/
lemma splitEnd_trim_append {column gap : List Char} (hcolumn : Text.IsTrimmed column)
    (hgap : Text.IsGap gap) {comparison : Comparison} {symbol : String}
    (hsymbol : symbol ∈ comparison.spellings)
    (hlast : ∀ c ∈ (column ++ gap).getLast?, c ≠ '!' ∧ c ≠ '<' ∧ c ≠ '>') :
    splitEnd (Text.trim (column ++ gap ++ symbol.toList)) = (column, comparison) := by
  obtain ⟨hne, htrimmed⟩ := isTrimmed_of_mem_spellings hsymbol
  cases column with
  | nil =>
    have htrim : Text.trim ([] ++ gap ++ symbol.toList) = [] ++ symbol.toList := by
      rw [List.nil_append, Text.trim, Text.trimStart_gap_append hgap, ← Text.trim,
        htrimmed.trim_eq_self, List.nil_append]
    rw [htrim, splitEnd_append_spelling hsymbol (by simp)]
    rfl
  | cons c rest =>
    have hwhole : Text.IsTrimmed (c :: rest ++ gap ++ symbol.toList) := by
      refine ⟨by simpa using hcolumn.head, ?_⟩
      rw [List.getLast?_append, List.getLast?_eq_some_getLast hne, Option.some_or]
      simpa [List.getLast?_eq_some_getLast hne] using htrimmed.last
    rw [hwhole.trim_eq_self, splitEnd_append_spelling hsymbol hlast,
      Text.trimEnd_append_gap hgap, Text.trimEnd_eq_self hcolumn.last]

/-- A blank runs together with no operator. -/
lemma ne_sign_of_isBlank {c : Char} (hc : Text.isBlank c = true) :
    c ≠ '!' ∧ c ≠ '<' ∧ c ≠ '>' := by
  refine ⟨?_, ?_, ?_⟩
  all_goals
    rintro rfl
    exact absurd hc (by decide)

/-- A column and an operator are found between blanks if there are blanks between them too, or the
column ends in nothing that could belong to the operator. -/
lemma splitEnd_trim_key {column before gap behind : List Char} (hcolumn : Text.IsTrimmed column)
    (hbefore : Text.IsGap before) (hgap : Text.IsGap gap) (hbehind : Text.IsGap behind)
    {comparison : Comparison} {symbol : String} (hsymbol : symbol ∈ comparison.spellings)
    (hlast : gap ≠ [] ∨ ∀ c ∈ column.getLast?, c ≠ '!' ∧ c ≠ '<' ∧ c ≠ '>') :
    splitEnd (Text.trim (before ++ (column ++ gap ++ symbol.toList) ++ behind)) =
      (column, comparison) := by
  rw [Text.trim_around hbefore hbehind]
  refine splitEnd_trim_append hcolumn hgap hsymbol ?_
  intro c hc
  by_cases hne : gap = []
  · rw [hne, List.append_nil] at hc
    exact hlast.resolve_left (fun h => h hne) c hc
  · rw [List.getLast?_append, List.getLast?_eq_some_getLast hne, Option.some_or] at hc
    obtain rfl : gap.getLast hne = c := by simpa using hc
    exact ne_sign_of_isBlank (hgap _ (List.getLast_mem hne))

/-- A column by itself is found between blanks unless it ends in an operator. -/
lemma splitEnd_trim_column {column before behind : List Char} (hcolumn : Text.IsTrimmed column)
    (hbefore : Text.IsGap before) (hbehind : Text.IsGap behind)
    (hlast : ∀ c ∈ column.getLast?, c ≠ '=' ∧ c ≠ '<' ∧ c ≠ '>') :
    splitEnd (Text.trim (before ++ column ++ behind)) = (column, eq) := by
  rw [Text.trim_around hbefore hbehind, hcolumn.trim_eq_self, splitEnd_eq_self hlast]

end Split

end Comparison

namespace Predicate

/-- The ways to write the column and the operator of a predicate as one key. -/
inductive IsKeyedBy (p : Predicate) : String → Prop where
  /-- A column without an operator asks for equality. -/
  | bare {gap : String} (hgap : Text.IsGap gap.toList) (hequal : p.comparison = .eq)
      (hlast : ∀ c ∈ p.column.toList.getLast?, c ≠ '=' ∧ c ≠ '<' ∧ c ≠ '>') :
      IsKeyedBy p (p.column ++ gap)
  | spaced {gap symbol : String} (hgap : Text.IsGap gap.toList) (hne : gap.toList ≠ [])
      (hsymbol : symbol ∈ p.comparison.spellings) : IsKeyedBy p (p.column ++ gap ++ symbol)
  /-- The operator stands right behind a column that cannot run together with it. -/
  | tight {symbol : String} (hsymbol : symbol ∈ p.comparison.spellings)
      (hlast : ∀ c ∈ p.column.toList.getLast?, c ≠ '!' ∧ c ≠ '<' ∧ c ≠ '>') :
      IsKeyedBy p (p.column ++ symbol)

lemma ofKey_of_splitEnd {key column : String} {comparison : Comparison}
    (h : Comparison.splitEnd (Text.trim key.toList) = (column.toList, comparison)) (value : Value) :
    ofKey key value = ⟨column, comparison, value⟩ := by
  simp only [ofKey, h, String.ofList_toList]

/-- A key of a predicate is read as that predicate. -/
theorem ofKey_eq_of_isKeyedBy {p : Predicate} {key : String} (h : p.IsKeyedBy key)
    (hcolumn : Text.IsTrimmed p.column.toList) : ofKey key p.value = p := by
  have hnone : Text.IsGap [] := by simp [Text.IsGap]
  refine ofKey_of_splitEnd ?_ p.value
  cases h with
  | bare hgap hequal hlast =>
    have h := Comparison.splitEnd_trim_column hcolumn hnone hgap hlast
    rwa [List.nil_append, ← String.toList_append, ← hequal] at h
  | spaced hgap hne hsymbol =>
    have h := Comparison.splitEnd_trim_key hcolumn hnone hgap hnone hsymbol (.inl hne)
    rwa [List.nil_append, List.append_nil, ← String.toList_append, ← String.toList_append] at h
  | tight hsymbol hlast =>
    have h := Comparison.splitEnd_trim_key hcolumn hnone hnone hnone hsymbol (.inr hlast)
    rwa [List.nil_append, List.append_nil, List.append_nil, ← String.toList_append] at h

/-- Blanks around a key and between its column and its operator do not count. The column may end in
a sign of an operator where the two stand apart, and otherwise unless the sign could be read as the
beginning of the operator; a column by itself asks for equality if it ends in no operator. -/
theorem ofKey_splits {column w₀ w₁ w₂ : String} (hcolumn : Text.IsTrimmed column.toList)
    (hgaps : ∀ w ∈ [w₀, w₁, w₂], Text.IsGap w.toList) (value : Value) :
    (∀ (comparison : Comparison), ∀ symbol ∈ comparison.spellings,
      (w₁ ≠ "" ∨ ∀ c ∈ column.toList.getLast?, c ≠ '!' ∧ c ≠ '<' ∧ c ≠ '>') →
        ofKey (w₀ ++ column ++ w₁ ++ symbol ++ w₂) value = ⟨column, comparison, value⟩) ∧
    ((∀ c ∈ column.toList.getLast?, c ≠ '=' ∧ c ≠ '<' ∧ c ≠ '>') →
      ofKey (w₀ ++ column ++ w₂) value = ⟨column, .eq, value⟩) := by
  simp only [List.forall_mem_cons] at hgaps
  obtain ⟨h₀, h₁, h₂, -⟩ := hgaps
  refine ⟨?_, ?_⟩
  · intro comparison symbol hsymbol hlast
    refine ofKey_of_splitEnd ?_ value
    have hapart : w₁.toList ≠ [] ∨ ∀ c ∈ column.toList.getLast?, c ≠ '!' ∧ c ≠ '<' ∧ c ≠ '>' :=
      hlast.imp_left fun hne => by simpa using hne
    have h := Comparison.splitEnd_trim_key hcolumn h₀ h₁ h₂ hsymbol hapart
    simpa only [String.toList_append, List.append_assoc] using h
  · intro hlast
    refine ofKey_of_splitEnd ?_ value
    have h := Comparison.splitEnd_trim_column hcolumn h₀ h₂ hlast
    simpa only [String.toList_append] using h

/-- The column ends in a sign and the operator stands behind a blank of its own. -/
theorem ofKey_splits_negation :
    Text.IsTrimmed "a !".toList ∧ (∀ w ∈ ["\t", "\u3000", " "], Text.IsGap w.toList) ∧
      "=" ∈ Comparison.eq.spellings ∧
      ofKey "\ta !\u3000= " .null = ⟨"a !", .eq, .null⟩ ∧
      ofKey "\ta ! " .null = ⟨"a !", .eq, .null⟩ := by
  have hcolumn : Text.IsTrimmed "a !".toList := by constructor <;> simp [Text.isBlank]
  have hgaps : ∀ w ∈ ["\t", "\u3000", " "], Text.IsGap w.toList := by
    have hall : ∀ w ∈ ["\t", "\u3000", " "], w.toList.all Text.isBlank := by decide +kernel
    intro w hw
    exact List.all_eq_true.mp (hall w hw)
  obtain ⟨hkeyed, hbare⟩ := ofKey_splits hcolumn hgaps .null
  exact ⟨hcolumn, hgaps, by decide, hkeyed .eq "=" (by decide) (.inl (by decide)),
    hbare (by simp)⟩

end Predicate
end TableAccess
