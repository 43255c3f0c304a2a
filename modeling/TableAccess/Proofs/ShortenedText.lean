import Mathlib.Data.List.Infix
import Mathlib.Tactic.Lemma
import TableAccess.Session

/-!
# Shortened text

`Text.clip` counts bytes from the front and never sees half a character. `Text.backOff` works the
other way round: it starts at the limit and goes back byte by byte until a character begins. Both
end at the same place, `Text.utf8Length_clip`, which is the last one within the limit where the
text can be cut.
-/

namespace TableAccess
namespace Text

variable {limit : Nat} {cs : List Char} {s : String}

/-- The last place at or before a number of bytes where a character of the text begins or the text
ends. -/
def backOff (s : String) : Nat → Nat
  | 0 => 0
  | n + 1 => if String.Pos.Raw.isValid s ⟨n + 1⟩ then n + 1 else backOff s n

lemma backOff_le (s : String) (limit : Nat) : backOff s limit ≤ limit := by
  induction limit with
  | zero => exact Nat.le_refl 0
  | succ n ih =>
    rw [backOff]
    split_ifs
    · exact Nat.le_refl _
    · omega

lemma isValid_backOff (s : String) (limit : Nat) :
    String.Pos.Raw.IsValid s ⟨backOff s limit⟩ := by
  induction limit with
  | zero => exact String.Pos.Raw.isValid_zero
  | succ n ih =>
    rw [backOff]
    split_ifs with hn
    · exact String.Pos.Raw.isValid_eq_true_iff.mp hn
    · exact ih

lemma le_backOff {n : Nat} (hn : String.Pos.Raw.IsValid s ⟨n⟩) (hle : n ≤ limit) :
    n ≤ backOff s limit := by
  induction limit with
  | zero => exact hle
  | succ m ih =>
    rw [backOff]
    split_ifs with hm
    · exact hle
    · have hne : n ≠ m + 1 := by
        rintro rfl
        exact hm (String.Pos.Raw.isValid_eq_true_iff.mpr hn)
      exact ih (by omega)

/-! ### Clipping -/

lemma utf8Length_append (cs ds : List Char) :
    utf8Length (cs ++ ds) = utf8Length cs + utf8Length ds := by
  induction cs with
  | nil => simp [utf8Length]
  | cons c cs ih => simp [utf8Length, ih, Nat.add_assoc]

/-- The bytes of characters are those of their text. -/
lemma utf8ByteSize_ofList (cs : List Char) : (String.ofList cs).utf8ByteSize = utf8Length cs := by
  induction cs with
  | nil => rfl
  | cons c cs ih =>
    rw [← List.singleton_append, String.ofList_append, String.utf8ByteSize_append, ih,
      ← String.singleton_eq_ofList, String.utf8ByteSize_singleton]
    rfl

lemma utf8Length_toList (s : String) : utf8Length s.toList = s.utf8ByteSize := by
  rw [← utf8ByteSize_ofList, String.ofList_toList]

lemma clip_isPrefix (limit : Nat) (cs : List Char) : clip limit cs <+: cs := by
  obtain ⟨rest, hrest⟩ := clip_append_rest limit cs
  exact ⟨rest, hrest.symm⟩

/-- Whatever whole characters fit the limit are kept. -/
lemma isPrefix_clip {p : List Char} (hp : p <+: cs) (hfits : utf8Length p ≤ limit) :
    p <+: clip limit cs := by
  induction cs generalizing p limit with
  | nil => simpa [clip] using hp
  | cons c cs ih =>
    cases p with
    | nil => exact List.nil_prefix
    | cons d p =>
      obtain ⟨rfl, hrest⟩ := List.cons_prefix_cons.mp hp
      rw [utf8Length] at hfits
      rw [clip, if_pos (by omega), List.cons_prefix_cons]
      exact ⟨rfl, ih hrest (by omega)⟩

lemma clip_of_le (h : utf8Length cs ≤ limit) : clip limit cs = cs :=
  (clip_isPrefix limit cs).eq_of_length_le (isPrefix_clip (List.prefix_refl cs) h).length_le

lemma utf8Length_le_of_isPrefix {p : List Char} (hp : p <+: cs) : utf8Length p ≤ utf8Length cs := by
  obtain ⟨rest, rfl⟩ := hp
  rw [utf8Length_append]
  exact Nat.le_add_right _ _

lemma isValid_clip (s : String) (limit : Nat) :
    String.Pos.Raw.IsValid s ⟨utf8Length (clip limit s.toList)⟩ := by
  rw [String.Pos.Raw.isValid_iff_exists_take_toList]
  refine ⟨(clip limit s.toList).length, ?_⟩
  rw [utf8ByteSize_ofList, ← List.prefix_iff_eq_take.mp (clip_isPrefix limit s.toList)]

/-- Clipping and backing off end at the same byte. -/
theorem utf8Length_clip (s : String) (limit : Nat) :
    utf8Length (clip limit s.toList) = backOff s limit := by
  apply Nat.le_antisymm
  · exact le_backOff (isValid_clip s limit) (utf8Length_clip_le limit s.toList)
  · obtain ⟨i, hi⟩ := String.Pos.Raw.isValid_iff_exists_take_toList.mp (isValid_backOff s limit)
    have hlength : backOff s limit = utf8Length (s.toList.take i) := by
      rw [← utf8ByteSize_ofList]
      exact hi
    have hfits : utf8Length (s.toList.take i) ≤ limit := hlength ▸ backOff_le s limit
    rw [hlength]
    exact utf8Length_le_of_isPrefix (isPrefix_clip (List.take_prefix i s.toList) hfits)

/-! ### Shortening -/

lemma shorten_of_le (h : s.utf8ByteSize ≤ limit) : shorten (some limit) s = s := by
  rw [shorten, utf8Length_toList, if_pos h]

lemma shorten_of_lt (h : limit < s.utf8ByteSize) :
    shorten (some limit) s = String.ofList (clip limit s.toList) ++ "..." := by
  rw [shorten, utf8Length_toList, if_neg (by omega)]

lemma ofList_clip_of_le (h : s.utf8ByteSize ≤ limit) :
    String.ofList (clip limit s.toList) = s := by
  rw [clip_of_le (by rwa [utf8Length_toList]), String.ofList_toList]

/-- Shortening leaves a text as it is if nothing is cut off, or if what is cut off are the three
dots that mark the cut. -/
theorem shorten_eq_self_iff {rest : String} (h : s = String.ofList (clip limit s.toList) ++ rest) :
    shorten (some limit) s = s ↔ rest = "" ∨ rest = "..." := by
  by_cases hle : s.utf8ByteSize ≤ limit
  · have hrest : rest = "" := by
      rw [ofList_clip_of_le hle] at h
      exact ((String.append_right_inj s).mp (String.append_empty.trans h)).symm
    exact iff_of_true (shorten_of_le hle) (.inl hrest)
  · have hne : rest ≠ "" := by
      rintro rfl
      rw [String.append_empty] at h
      apply hle
      rw [h, utf8ByteSize_ofList]
      exact utf8Length_clip_le limit s.toList
    have hcut : String.ofList (clip limit s.toList) ++ "..." = s ↔
        String.ofList (clip limit s.toList) ++ "..." =
          String.ofList (clip limit s.toList) ++ rest := by rw [← h]
    rw [shorten_of_lt (by omega), or_iff_right hne, hcut, String.append_right_inj, eq_comm]

/-- What is kept of a text is its longest beginning of whole characters that fits the limit, and it
ends where backing off from the limit to the start of a character ends. A text that fits is left as
it is, any other is cut there and marked with three dots. What is logged is the text itself if
nothing is cut off or three dots are. -/
theorem shorten_keeps_longest (s : String) (limit : Nat) :
    let kept := String.ofList (clip limit s.toList)
    ∃ rest, s = kept ++ rest ∧
      kept.utf8ByteSize ≤ limit ∧
      (∀ front back : String, s = front ++ back → front.utf8ByteSize ≤ limit →
        ∃ more, kept = front ++ more) ∧
      kept.rawEndPos.IsValid s ∧
      kept.utf8ByteSize = backOff s limit ∧
      shorten none s = s ∧
      (s.utf8ByteSize ≤ limit → shorten (some limit) s = s) ∧
      (limit < s.utf8ByteSize → shorten (some limit) s = kept ++ "...") ∧
      (shorten (some limit) s = s ↔ rest = "" ∨ rest = "...") ∧
      ∀ (settings : ExecutionSettings) (operation : String) (params : List Value),
        settings.maxSql = some limit →
        (Session.event settings operation ⟨s, params⟩ =
            .statement settings.level operation params.length s ↔
          rest = "" ∨ rest = "...") := by
  intro kept
  obtain ⟨rest, hrest⟩ := clip_append_rest limit s.toList
  have hsplit : s = kept ++ String.ofList rest := by
    rw [← String.ofList_append, ← hrest, String.ofList_toList]
  have hsize : kept.utf8ByteSize = utf8Length (clip limit s.toList) := utf8ByteSize_ofList _
  refine ⟨String.ofList rest, hsplit, ?_, ?_, ?_, ?_, rfl, shorten_of_le, shorten_of_lt,
    shorten_eq_self_iff hsplit, ?_⟩
  · rw [hsize]
    exact utf8Length_clip_le limit s.toList
  · intro front back hfront hfits
    have hprefix : front.toList <+: s.toList := ⟨back.toList, by rw [hfront, String.toList_append]⟩
    have hbytes : utf8Length front.toList ≤ limit := by rwa [utf8Length_toList]
    obtain ⟨more, hmore⟩ := isPrefix_clip hprefix hbytes
    refine ⟨String.ofList more, ?_⟩
    rw [← String.ofList_toList (s := front), ← String.ofList_append, hmore]
  · rw [String.Pos.Raw.isValid_iff_exists_append]
    exact ⟨kept, String.ofList rest, hsplit, rfl⟩
  · rw [hsize, utf8Length_clip]
  · intro settings operation params hlimit
    rw [← shorten_eq_self_iff hsplit, Session.event, hlimit]
    simp

/-- The limit lies inside the third character, which has three bytes. -/
theorem shorten_keeps_longest_insideCharacter :
    let s := "aé€😀"
    5 < s.utf8ByteSize ∧ String.ofList (clip 5 s.toList) = "aé" ∧ backOff s 5 = 3 ∧
      shorten (some 5) s = "aé..." ∧ ∃ more, "aé" = "a" ++ more := by
  intro s
  have hlong : 5 < s.utf8ByteSize := by decide
  have hkept : String.ofList (clip 5 s.toList) = "aé" := by decide +kernel
  obtain ⟨rest, -, -, hlongest, -, hend, -, -, hcut, -⟩ := shorten_keeps_longest s 5
  rw [hkept] at hlongest hend hcut
  exact ⟨hlong, hkept, hend.symm, hcut hlong, hlongest "a" "é€😀" rfl (by decide)⟩

end Text
end TableAccess
