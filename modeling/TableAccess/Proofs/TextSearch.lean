import Mathlib.Data.List.Infix
import Mathlib.Tactic.Lemma
import TableAccess.Query.TextMatch

/-!
# What a pattern finds

`Likes` is the matching of LIKE with the backslash as its escape. A pattern of `Wildcard.pattern`
finds the text that it was made from, and nothing else: percent signs, underscores and backslashes
of the text stand for themselves, and the sides of the pattern that are open allow anything.
-/

namespace TableAccess

/-- A pattern and a text that it matches. -/
inductive Likes : List Char → List Char → Prop where
  | nil : Likes [] []
  | anything {pattern s : List Char} (front : List Char) (h : Likes pattern s) :
      Likes ('%' :: pattern) (front ++ s)
  | anyOne {pattern s : List Char} (c : Char) (h : Likes pattern s) :
      Likes ('_' :: pattern) (c :: s)
  | escaped {pattern s : List Char} (c : Char) (h : Likes pattern s) :
      Likes ('\\' :: c :: pattern) (c :: s)
  | itself {c : Char} {pattern s : List Char} (hc : c ≠ '%' ∧ c ≠ '_' ∧ c ≠ '\\')
      (h : Likes pattern s) : Likes (c :: pattern) (c :: s)

/-- A pattern in which every backslash escapes the character behind it. -/
inductive EscapesPaired : List Char → Prop where
  | nil : EscapesPaired []
  | escape {pattern : List Char} (c : Char) (h : EscapesPaired pattern) :
      EscapesPaired ('\\' :: c :: pattern)
  | other {c : Char} {pattern : List Char} (hc : c ≠ '\\') (h : EscapesPaired pattern) :
      EscapesPaired (c :: pattern)

namespace Likes

variable {pattern s : List Char}

lemma nil_iff : Likes [] s ↔ s = [] := by
  constructor
  · intro h
    cases h
    rfl
  · rintro rfl
    exact .nil

lemma anything_iff : Likes ('%' :: pattern) s ↔ ∃ front t, s = front ++ t ∧ Likes pattern t := by
  constructor
  · intro h
    cases h with
    | anything front h => exact ⟨front, _, rfl, h⟩
    | itself hc h => exact absurd rfl hc.1
  · rintro ⟨front, t, rfl, h⟩
    exact .anything front h

lemma escaped_iff {c : Char} :
    Likes (Wildcard.escaped c ++ pattern) s ↔ ∃ t, s = c :: t ∧ Likes pattern t := by
  by_cases hc : c = '%' ∨ c = '_' ∨ c = '\\'
  · rw [Wildcard.escaped, if_pos hc, List.cons_append, List.singleton_append]
    constructor
    · intro h
      cases h with
      | escaped c h => exact ⟨_, rfl, h⟩
      | itself hslash h => exact absurd rfl hslash.2.2
    · rintro ⟨t, rfl, h⟩
      exact .escaped c h
  · rw [Wildcard.escaped, if_neg hc, List.singleton_append]
    simp only [not_or] at hc
    constructor
    · intro h
      cases h with
      | anything front h => exact absurd rfl hc.1
      | anyOne d h => exact absurd rfl hc.2.1
      | escaped d h => exact absurd rfl hc.2.2
      | itself _ h => exact ⟨_, rfl, h⟩
    · rintro ⟨t, rfl, h⟩
      exact .itself hc h

/-- An escaped text matches itself, and the rest of the pattern what follows. -/
lemma text_iff {text : List Char} :
    Likes (text.flatMap Wildcard.escaped ++ pattern) s ↔
      ∃ t, s = text ++ t ∧ Likes pattern t := by
  induction text generalizing s with
  | nil => simp
  | cons c text ih =>
    rw [List.flatMap_cons, List.append_assoc, escaped_iff]
    constructor
    · rintro ⟨u, rfl, hu⟩
      obtain ⟨t, rfl, ht⟩ := ih.mp hu
      exact ⟨t, rfl, ht⟩
    · rintro ⟨t, rfl, ht⟩
      exact ⟨text ++ t, rfl, ih.mpr ⟨t, rfl, ht⟩⟩

lemma opening_iff {opens : Bool} :
    Likes ((if opens then ['%'] else []) ++ pattern) s ↔
      ∃ front t, s = front ++ t ∧ (opens = false → front = []) ∧ Likes pattern t := by
  cases opens with
  | false => simp
  | true => simp [anything_iff]

lemma ending_iff {ends : Bool} :
    Likes (if ends then ['%'] else []) s ↔ (ends = false → s = []) := by
  cases ends with
  | false => simp [nil_iff]
  | true => simp [anything_iff, nil_iff]

/-- Something may stand before the text and behind it where the side allows it. -/
theorem pattern_iff {side : Wildcard} {text : List Char} :
    Likes (side.pattern text) s ↔
      ∃ front back, s = front ++ (text ++ back) ∧ (side.opens = false → front = []) ∧
        (side.ends = false → back = []) := by
  rw [Wildcard.pattern, List.append_assoc, opening_iff]
  simp only [text_iff, ending_iff]
  constructor
  · rintro ⟨front, t, rfl, hfront, back, rfl, hback⟩
    exact ⟨front, back, rfl, hfront, hback⟩
  · rintro ⟨front, back, rfl, hfront, hback⟩
    exact ⟨front, _, rfl, hfront, back, rfl, hback⟩

end Likes

namespace EscapesPaired

lemma escaped_append {pattern : List Char} (h : EscapesPaired pattern) (c : Char) :
    EscapesPaired (Wildcard.escaped c ++ pattern) := by
  by_cases hc : c = '%' ∨ c = '_' ∨ c = '\\'
  · rw [Wildcard.escaped, if_pos hc]
    exact .escape c h
  · rw [Wildcard.escaped, if_neg hc]
    simp only [not_or] at hc
    exact .other hc.2.2 h

lemma text_append {pattern : List Char} (h : EscapesPaired pattern) (text : List Char) :
    EscapesPaired (text.flatMap Wildcard.escaped ++ pattern) := by
  induction text with
  | nil => exact h
  | cons c text ih =>
    rw [List.flatMap_cons, List.append_assoc]
    exact ih.escaped_append c

lemma anything {pattern : List Char} (h : EscapesPaired pattern) :
    EscapesPaired ('%' :: pattern) :=
  .other (by decide) h

theorem pattern (side : Wildcard) (text : List Char) : EscapesPaired (side.pattern text) := by
  have hending : EscapesPaired (if side.ends then ['%'] else []) := by
    cases side.ends with
    | false => exact .nil
    | true => exact .anything .nil
  have htext := hending.text_append text
  rw [Wildcard.pattern, List.append_assoc]
  cases side.opens with
  | false => exact htext
  | true => exact htext.anything

end EscapesPaired

namespace Wildcard

/-- The patterns of a text find the texts that contain it, end with it, begin with it or are it,
whatever characters it has, and no backslash of a pattern is left over at its end. -/
theorem pattern_finds_text (text s : List Char) :
    (Likes (both.pattern text) s ↔ text <:+: s) ∧
    (Likes (before.pattern text) s ↔ text <:+ s) ∧
    (Likes (after.pattern text) s ↔ text <+: s) ∧
    (Likes (none.pattern text) s ↔ s = text) ∧
    ∀ side : Wildcard, EscapesPaired (side.pattern text) := by
  refine ⟨?_, ?_, ?_, ?_, fun side => .pattern side text⟩
  · rw [Likes.pattern_iff]
    constructor
    · rintro ⟨front, back, rfl, -⟩
      exact List.infix_append' front text back
    · rintro ⟨front, back, rfl⟩
      exact ⟨front, back, List.append_assoc _ _ _, by simp [opens], by simp [ends]⟩
  · rw [Likes.pattern_iff]
    constructor
    · rintro ⟨front, back, rfl, -, hback⟩
      rw [hback rfl, List.append_nil]
      exact List.suffix_append front text
    · rintro ⟨front, rfl⟩
      exact ⟨front, [], by simp, by simp [opens], fun _ => rfl⟩
  · rw [Likes.pattern_iff]
    constructor
    · rintro ⟨front, back, rfl, hfront, -⟩
      rw [hfront rfl, List.nil_append]
      exact List.prefix_append text back
    · rintro ⟨back, rfl⟩
      exact ⟨[], back, rfl, fun _ => rfl, by simp [ends]⟩
  · rw [Likes.pattern_iff]
    constructor
    · rintro ⟨front, back, rfl, hfront, hback⟩
      rw [hfront rfl, hback rfl, List.nil_append, List.append_nil]
    · rintro rfl
      exact ⟨[], [], by simp, fun _ => rfl, fun _ => rfl⟩

example : both.pattern ['5', '%', '\\'] = ['%', '5', '\\', '%', '\\', '\\', '%'] := rfl

end Wildcard
end TableAccess
