/-!
# Entries under distinct keys

Records and JSON objects are lists of entries whose order means something. `set` replaces the
entry of a key where it stands and puts a new key last; `ofList` builds such a list from any
pairs, so that a repeated key keeps its first place and takes its last value.
-/

namespace TableAccess

abbrev Entries (α : Type) := List (String × α)

namespace Entries

variable {α : Type}

def keys (entries : Entries α) : List String :=
  entries.map Prod.fst

def get? (key : String) : Entries α → Option α
  | [] => none
  | (k, a) :: rest => if k = key then some a else get? key rest

/-- Puts a value under a key, in place of the one that is there. -/
def set (key : String) (a : α) : Entries α → Entries α
  | [] => [(key, a)]
  | (k, b) :: rest => if k = key then (k, a) :: rest else (k, b) :: set key a rest

/-- Takes the entry of a key out: its value, if there is one, and what is left. -/
def remove (key : String) : Entries α → Option α × Entries α
  | [] => (none, [])
  | (k, a) :: rest =>
    if k = key then (some a, rest)
    else
      let (removed, others) := remove key rest
      (removed, (k, a) :: others)

/-- Puts every value under its key, one after the other. -/
def setAll (entries : Entries α) (pairs : List (String × α)) : Entries α :=
  pairs.foldl (fun entries (key, a) => entries.set key a) entries

def ofList (pairs : List (String × α)) : Entries α :=
  setAll [] pairs

@[simp] theorem keys_cons (key : String) (a : α) (rest : Entries α) :
    keys ((key, a) :: rest) = key :: keys rest := rfl

theorem get?_isSome_iff (entries : Entries α) (key : String) :
    (entries.get? key).isSome = true ↔ key ∈ entries.keys := by
  induction entries with
  | nil => simp [get?, keys]
  | cons entry rest ih =>
    obtain ⟨k, a⟩ := entry
    by_cases hk : k = key
    · simp [get?, hk]
    · have hkey : key ≠ k := fun h => hk h.symm
      simp [get?, hk, hkey, ih]

theorem get?_set_self (entries : Entries α) (key : String) (a : α) :
    (entries.set key a).get? key = some a := by
  induction entries with
  | nil => simp [set, get?]
  | cons entry rest ih =>
    obtain ⟨k, b⟩ := entry
    by_cases hk : k = key
    · simp [set, get?, hk]
    · simp [set, get?, hk, ih]

theorem get?_set_of_ne (entries : Entries α) {key other : String} (a : α) (h : other ≠ key) :
    (entries.set key a).get? other = entries.get? other := by
  induction entries with
  | nil => simp [set, get?, h.symm]
  | cons entry rest ih =>
    obtain ⟨k, b⟩ := entry
    by_cases hk : k = key
    · subst hk
      simp [set, get?, h.symm]
    · simp [set, get?, hk, ih]

theorem keys_set (entries : Entries α) (key : String) (a : α) :
    (entries.set key a).keys =
      if key ∈ entries.keys then entries.keys else entries.keys ++ [key] := by
  induction entries with
  | nil => simp [set, keys]
  | cons entry rest ih =>
    obtain ⟨k, b⟩ := entry
    by_cases hk : k = key
    · simp [set, hk]
    · have hkey : key ≠ k := fun h => hk h.symm
      simp only [set, hk, if_false, keys_cons, ih, List.mem_cons, hkey, false_or]
      split <;> simp

end Entries
end TableAccess
