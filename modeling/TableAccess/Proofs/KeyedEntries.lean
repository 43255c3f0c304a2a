import Mathlib.Data.List.Induction
import Mathlib.Data.List.Nodup
import Mathlib.Tactic.Lemma
import TableAccess.Entries

/-!
# Laws of entries

What `Entries.set` and `Entries.remove` do to the keys and to the value under a key. Entries that
are made of pairs never repeat a key, and by `keys_ofList` the keys stand in the order in which they
first occur in the pairs.
-/

namespace TableAccess
namespace Entries

variable {α : Type} {entries pairs : Entries α}

lemma set_of_not_mem {key : String} (h : key ∉ entries.keys) (a : α) :
    entries.set key a = entries ++ [(key, a)] := by
  induction entries with
  | nil => rfl
  | cons entry rest ih =>
    obtain ⟨k, b⟩ := entry
    rw [keys_cons, List.mem_cons, not_or] at h
    have hk : k ≠ key := fun hk => h.1 hk.symm
    simp [set, hk, ih h.2]

/-- Nothing changes when a key is given the value that it has. -/
lemma set_of_get? {key : String} {a : α} (h : entries.get? key = some a) :
    entries.set key a = entries := by
  induction entries with
  | nil => simp [get?] at h
  | cons entry rest ih =>
    obtain ⟨k, b⟩ := entry
    rw [get?] at h
    rw [set]
    split_ifs at h ⊢ with hk
    · rw [Option.some.inj h]
    · rw [ih h]

lemma setAll_of_nodup (h : (keys (entries ++ pairs)).Nodup) :
    setAll entries pairs = entries ++ pairs := by
  induction pairs generalizing entries with
  | nil => simp [setAll]
  | cons pair rest ih =>
    obtain ⟨key, a⟩ := pair
    have hkey : key ∉ entries.keys := by
      simp only [keys, List.map_append, List.map_cons, List.nodup_append] at h
      exact fun hmem => h.2.2 key hmem key (by simp) rfl
    have hrest : (keys (entries ++ [(key, a)] ++ rest)).Nodup := by simpa using h
    have hstep : setAll entries ((key, a) :: rest) = setAll (entries.set key a) rest := rfl
    rw [hstep, set_of_not_mem hkey, ih hrest]
    simp

theorem ofList_of_nodup (h : (keys pairs).Nodup) : ofList pairs = pairs := by
  have hall : (keys ([] ++ pairs)).Nodup := h
  exact setAll_of_nodup hall

lemma keys_set_nodup (h : entries.keys.Nodup) (key : String) (a : α) :
    (entries.set key a).keys.Nodup := by
  rw [keys_set]
  split
  · exact h
  · rename_i hkey
    rw [List.nodup_append]
    refine ⟨h, by simp, fun k hk other hother => ?_⟩
    rw [List.mem_singleton.mp hother]
    exact fun heq => hkey (heq ▸ hk)

lemma keys_setAll_nodup (h : entries.keys.Nodup) : (setAll entries pairs).keys.Nodup := by
  induction pairs generalizing entries with
  | nil => exact h
  | cons pair rest ih =>
    obtain ⟨key, a⟩ := pair
    exact ih (keys_set_nodup h key a)

/-- However often a key is repeated in the pairs, it is one key of the entries. -/
theorem keys_ofList_nodup : (ofList pairs).keys.Nodup :=
  keys_setAll_nodup List.nodup_nil

lemma get?_set (entries : Entries α) (key : String) (a : α) (other : String) :
    (entries.set key a).get? other = if other = key then some a else entries.get? other := by
  split_ifs with h
  · rw [h, get?_set_self]
  · exact get?_set_of_ne entries a h

lemma get?_eq_none_iff {key : String} : entries.get? key = none ↔ key ∉ entries.keys := by
  rw [← get?_isSome_iff, Option.not_isSome_iff_eq_none]

/-! ### Removing an entry -/

lemma fst_remove (entries : Entries α) (key : String) :
    (entries.remove key).1 = entries.get? key := by
  induction entries with
  | nil => rfl
  | cons entry rest ih =>
    obtain ⟨k, a⟩ := entry
    rw [remove, get?]
    split_ifs
    · rfl
    · exact ih

lemma keys_remove (entries : Entries α) (key : String) :
    (entries.remove key).2.keys = entries.keys.erase key := by
  induction entries with
  | nil => rfl
  | cons entry rest ih =>
    obtain ⟨k, a⟩ := entry
    rw [remove, keys_cons]
    split_ifs with hk
    · rw [hk, List.erase_cons_head]
    · rw [List.erase_cons_tail (by simpa using hk), ← ih, keys_cons]

lemma get?_remove_of_ne (entries : Entries α) {key other : String} (h : other ≠ key) :
    (entries.remove key).2.get? other = entries.get? other := by
  induction entries with
  | nil => rfl
  | cons entry rest ih =>
    obtain ⟨k, a⟩ := entry
    rw [remove, get?]
    by_cases hk : k = key
    · rw [if_pos hk, if_neg fun hother => h (hother.symm.trans hk)]
    · rw [if_neg hk, get?, ih]

lemma get?_remove (h : entries.keys.Nodup) (key other : String) :
    (entries.remove key).2.get? other = if other = key then none else entries.get? other := by
  split_ifs with hother
  · rw [hother, get?_eq_none_iff, keys_remove]
    exact h.not_mem_erase
  · exact get?_remove_of_ne entries hother

/-! ### Entries that are made of pairs -/

lemma ofList_concat (pairs : Entries α) (key : String) (a : α) :
    ofList (pairs ++ [(key, a)]) = (ofList pairs).set key a := by
  rw [ofList, setAll, List.foldl_append]
  rfl

/-- The keys stand in the order in which they first occur. -/
theorem keys_ofList (pairs : Entries α) : (ofList pairs).keys = (pairs.map Prod.fst).eraseDups := by
  induction pairs using List.reverseRecOn with
  | nil => rfl
  | append_singleton pairs pair ih =>
    obtain ⟨key, a⟩ := pair
    rw [ofList_concat, keys_set, ih, List.map_append, List.eraseDups_append]
    by_cases hkey : key ∈ pairs.map Prod.fst
    · simp [List.removeAll, hkey]
    · simp [List.removeAll, hkey, List.eraseDups_cons]

lemma get?_constant {names : List String} {name : String} (h : name ∈ names) (a : α) :
    get? name (names.map fun name => (name, a)) = some a := by
  induction names with
  | nil => simp at h
  | cons first rest ih =>
    rw [List.map_cons, get?]
    split_ifs with hfirst
    · rfl
    · exact ih ((List.mem_cons.mp h).resolve_left (Ne.symm hfirst))

/-- Names that all have one value are kept once each. -/
theorem ofList_constant (names : List String) (a : α) :
    ofList (names.map fun name => (name, a)) = names.eraseDups.map fun name => (name, a) := by
  induction names using List.reverseRecOn with
  | nil => rfl
  | append_singleton names name ih =>
    rw [List.map_append, List.map_singleton, ofList_concat, ih, List.eraseDups_append]
    by_cases hname : name ∈ names
    · rw [set_of_get? (get?_constant (List.mem_eraseDups.mpr hname) a)]
      simp [List.removeAll, hname]
    · rw [set_of_not_mem]
      · simp [List.removeAll, hname, List.eraseDups_cons]
      · simpa [keys] using hname

end Entries
end TableAccess
