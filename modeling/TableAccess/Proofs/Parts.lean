import Mathlib.Data.List.Count
import TableAccess.Decoding.Components
import TableAccess.Proofs.Outcome

/-!
# Structures in documents

`Part` says how a part of a structure is given in a document and `IsObjectOf` which documents give
all parts of one, without saying how they are read. `structured_eq_ok` carries this over to
`structured`: if every component reads its part, as `Component.Reads` puts it, a document of the
parts is read as the structure. The same is said of lists and of pairs.
-/

namespace TableAccess

/-- An object with members in order; keys may repeat. -/
def Document.keyed (members : List (String × Document)) : Document :=
  .object (members.map fun member => (some member.1, member.2)) true

namespace Decoding

/-- The document is an array with an item for each element. -/
def IsListOf {α : Type} (R : α → Document → Prop) (xs : List α) (d : Document) : Prop :=
  ∃ items, d = .array items true ∧ List.Forall₂ R xs items

/-- The document is an object with a member for each element, in order. -/
def IsMapOf {α : Type} (R : α → String × Document → Prop) (xs : List α) (d : Document) : Prop :=
  ∃ members, d = .keyed members ∧ List.Forall₂ R xs members

section Lists

variable {α β : Type} {xs : List α} {d : Document}

theorem list_eq_ok {R : α → Document → Prop} {read : Document → Decoded α}
    (h : IsListOf R xs d) (hread : ∀ x ∈ xs, ∀ item, R x item → read item = .ok x) :
    list read d = .ok xs := by
  obtain ⟨items, rfl, hitems⟩ := h
  have hall : items.mapM read = .ok xs := by
    rw [mapM_eq_ok_iff]
    refine List.Forall₂.flip (((List.forall₂_and_left xs items).mpr ⟨hread, hitems⟩).imp ?_)
    rintro x item ⟨hx, hR⟩
    exact hx item hR
  simp [list, hall, bind, Except.bind, pure, Except.pure]

lemma pairs_keyed_eq_ok {read : Document → Decoded β} {members : List (String × Document)}
    {values : List (String × β)}
    (h : List.Forall₂ (fun member pair => pair.1 = member.1 ∧ read member.2 = .ok pair.2)
      members values) : pairs read (.keyed members) = .ok values := by
  simp only [pairs, Document.keyed]
  rw [bind_eq_ok_iff]
  refine ⟨values, ?_, rfl⟩
  rw [mapM_eq_ok_iff, List.forall₂_map_left_iff]
  refine h.imp ?_
  rintro ⟨key, item⟩ ⟨key', b⟩ ⟨hkey, hb⟩
  obtain rfl : key' = key := hkey
  rw [bind_eq_ok_iff]
  exact ⟨b, hb, rfl⟩

/-- Elements that are made of the pairs of an object come out in the order of its members. -/
theorem map_pairs_eq_ok {R : α → String × Document → Prop} {read : Document → Decoded β}
    {make : String × β → α} (h : IsMapOf R xs d)
    (hread : ∀ x ∈ xs, ∀ member, R x member →
      ∃ b, read member.2 = .ok b ∧ make (member.1, b) = x) :
    ∃ values, pairs read d = .ok values ∧ values.map make = xs := by
  obtain ⟨members, rfl, hmembers⟩ := h
  have hvalues : ∃ values : List (String × β),
      List.Forall₂ (fun member pair => pair.1 = member.1 ∧ read member.2 = .ok pair.2)
        members values ∧ values.map make = xs := by
    induction hmembers with
    | nil => exact ⟨[], .nil, rfl⟩
    | @cons x member xs members hR _ ih =>
      obtain ⟨b, hb, hmake⟩ := hread x (by simp) member hR
      obtain ⟨values, hvalues, hmap⟩ := ih fun y hy => hread y (by simp [hy])
      exact ⟨(member.1, b) :: values, .cons ⟨rfl, hb⟩ hvalues, by rw [List.map_cons, hmake, hmap]⟩
  obtain ⟨values, hforall, hmap⟩ := hvalues
  exact ⟨values, pairs_keyed_eq_ok hforall, hmap⟩

lemma string_eq_ok {s : String} (h : d = .string s) : string d = .ok s := by
  rw [h, string]

end Lists

/-- How a part of a structure is given: by a value under a name. -/
structure Part where
  name : String
  /-- The value gives the part. -/
  Given : Document → Prop
  /-- The part is as it is taken to be when it is left out. -/
  Omissible : Prop

/-- Members give the parts of a structure, in any order and among members of other names. -/
structure Part.GivenBy (parts : List Part) (members : List (String × Document)) : Prop where
  given : ∀ member ∈ members, ∀ part ∈ parts, part.name = member.1 → part.Given member.2
  others : ∀ member ∈ members, (∀ part ∈ parts, part.name ≠ member.1) →
    member.2.isWellFormed = true
  once : ∀ part ∈ parts, (members.map Prod.fst).count part.name ≤ 1
  complete : ∀ part ∈ parts, part.Omissible ∨ part.name ∈ members.map Prod.fst

/-- The document is an object whose members give the parts of a structure. -/
def IsObjectOf (parts : List Part) (d : Document) : Prop :=
  ∃ members, d = .keyed members ∧ Part.GivenBy parts members

/-- What a part is once the members of some names have been read. -/
def kept {α : Type} (seen : List String) (name : String) (a default : α) : α :=
  if name ∈ seen then a else default

@[simp] lemma kept_cons {α : Type} (other name : String) (seen : List String) (a default : α) :
    kept (other :: seen) name a default = if name = other then a else kept seen name a default := by
  by_cases h : name = other <;> simp [kept, h]

lemma kept_eq_self {α : Type} {seen : List String} {name : String} {a default : α}
    (h : a = default ∨ name ∈ seen) : kept seen name a default = a := by
  by_cases hname : name ∈ seen
  · simp [kept, hname]
  · simp [kept, hname, h.resolve_right hname]

section Structures

variable {σ : Type} {state : List String → σ}

/-- A component reads a part: `state` is what has been read of a structure when the members of
some names have been. -/
structure Component.Reads (state : List String → σ) (c : Component σ) (part : Part) : Prop where
  name : c.name = part.name
  required : c.required = true → ¬part.Omissible
  read : ∀ d seen, part.Given d → c.read d (state seen) = .ok (state (part.name :: seen))

theorem Component.reads_optional {α : Type} {name : String} {read : Document → Decoded α}
    {set : α → σ → σ} {a : α} {Given : Document → Prop} {Omissible : Prop}
    (hread : ∀ d, Given d → read d = .ok a)
    (hset : ∀ seen, set a (state seen) = state (name :: seen)) :
    (Component.optional name read set).Reads state ⟨name, Given, Omissible⟩ where
  name := rfl
  required h := by simp [Component.optional] at h
  read d seen hd := by simp [Component.optional, hread d hd, Except.map, hset]

theorem Component.reads_needed {α : Type} {name : String} {read : Document → Decoded α}
    {set : α → σ → σ} {a : α} {Given : Document → Prop}
    (hread : ∀ d, Given d → read d = .ok a)
    (hset : ∀ seen, set a (state seen) = state (name :: seen)) :
    (Component.needed name read set).Reads state ⟨name, Given, False⟩ where
  name := rfl
  required _ := not_false
  read d seen hd := by
    simp [Component.needed, Component.optional, hread d hd, Except.map, hset]

variable {components : List (Component σ)} {parts : List Part}
  {members : List (String × Document)}

lemma exists_part_of_find? (hreads : List.Forall₂ (Component.Reads state) components parts)
    {key : String} {c : Component σ} (hfind : components.find? (·.name == key) = some c) :
    ∃ part ∈ parts, part.name = key ∧ c.Reads state part := by
  obtain ⟨part, hpart, hread⟩ :=
    exists_of_forall₂_mem hreads.flip (List.mem_of_find?_eq_some hfind)
  have hname : c.name = key := by simpa using List.find?_some hfind
  exact ⟨part, hpart, by rw [← hread.name, hname], hread⟩

lemma forall_part_name_ne (hreads : List.Forall₂ (Component.Reads state) components parts)
    {key : String} (hfind : components.find? (·.name == key) = none) :
    ∀ part ∈ parts, part.name ≠ key := by
  intro part hpart hkey
  obtain ⟨c, hc, hread⟩ := exists_of_forall₂_mem hreads hpart
  have h := List.find?_eq_none.mp hfind c hc
  simp [hread.name, hkey] at h

/-- Nothing is missing once every part that must be given has been. -/
lemma find?_missing_eq_none (hreads : List.Forall₂ (Component.Reads state) components parts)
    {seen : List String} (hseen : ∀ part ∈ parts, part.Omissible ∨ part.name ∈ seen) :
    components.find? (fun c => c.required && !seen.contains c.name) = none := by
  rw [List.find?_eq_none]
  intro c hc
  obtain ⟨part, hpart, hread⟩ := exists_of_forall₂_mem hreads.flip hc
  cases hrequired : c.required with
  | false => simp
  | true =>
    have hname := (hseen part hpart).resolve_left (hread.required hrequired)
    simpa [hread.name] using hname

/-- Members give what is left of the parts when those of some names have been given. -/
structure Part.LeftTo (parts : List Part) (seen : List String)
    (members : List (String × Document)) : Prop where
  given : ∀ member ∈ members, ∀ part ∈ parts, part.name = member.1 → part.Given member.2
  others : ∀ member ∈ members, (∀ part ∈ parts, part.name ≠ member.1) →
    member.2.isWellFormed = true
  once : ∀ part ∈ parts, (members.map Prod.fst ++ seen).count part.name ≤ 1
  complete : ∀ part ∈ parts, part.Omissible ∨ part.name ∈ members.map Prod.fst ++ seen

section LeftTo

variable {seen : List String} {key : String} {d : Document}

lemma Part.GivenBy.leftTo (h : Part.GivenBy parts members) : Part.LeftTo parts [] members where
  given := h.given
  others := h.others
  once := by simpa using h.once
  complete := by simpa using h.complete

lemma Part.LeftTo.not_seen {part : Part} (h : Part.LeftTo parts seen ((part.name, d) :: members))
    (hpart : part ∈ parts) : part.name ∉ seen := by
  intro hmem
  have hpos := List.count_pos_iff.mpr hmem
  have hcount := h.once part hpart
  rw [List.map_cons, List.cons_append, List.count_cons_self, List.count_append] at hcount
  omega

/-- A part that has been given is not left. -/
lemma Part.LeftTo.of_known (h : Part.LeftTo parts seen ((key, d) :: members)) :
    Part.LeftTo parts (key :: seen) members where
  given m hm := h.given m (List.mem_cons_of_mem _ hm)
  others m hm := h.others m (List.mem_cons_of_mem _ hm)
  once part hpart := by
    rw [List.perm_middle.count_eq]
    exact h.once part hpart
  complete part hpart := by
    rw [List.perm_middle.mem_iff]
    exact h.complete part hpart

lemma Part.LeftTo.of_other (h : Part.LeftTo parts seen ((key, d) :: members))
    (hother : ∀ part ∈ parts, part.name ≠ key) : Part.LeftTo parts seen members where
  given m hm := h.given m (List.mem_cons_of_mem _ hm)
  others m hm := h.others m (List.mem_cons_of_mem _ hm)
  once part hpart := by
    simpa [List.count_cons, (hother part hpart).symm] using h.once part hpart
  complete part hpart := by simpa [hother part hpart] using h.complete part hpart

end LeftTo

/-- The members that are left are read as what has not been. -/
lemma readMembers_eq_ok (hreads : List.Forall₂ (Component.Reads state) components parts)
    {whole : σ} (hwhole : ∀ seen, (∀ part ∈ parts, part.Omissible ∨ part.name ∈ seen) →
      state seen = whole) {seen : List String} (h : Part.LeftTo parts seen members) :
    readMembers components true seen (state seen)
      (members.map fun member => (some member.1, member.2)) = .ok whole := by
  induction members generalizing seen with
  | nil =>
    have hseen : ∀ part ∈ parts, part.Omissible ∨ part.name ∈ seen := by simpa using h.complete
    rw [List.map_nil, readMembers, if_pos rfl, find?_missing_eq_none hreads hseen,
      hwhole seen hseen]
  | cons member rest ih =>
    obtain ⟨key, d⟩ := member
    rw [List.map_cons]
    cases hfind : components.find? (·.name == key) with
    | some c =>
      obtain ⟨part, hpart, rfl, hread⟩ := exists_part_of_find? hreads hfind
      have hd : c.read d (state seen) = .ok (state (part.name :: seen)) :=
        hread.read d seen (h.given (part.name, d) (by simp) part hpart rfl)
      rw [readMembers, hfind]
      simp only [List.contains_eq_mem, h.not_seen hpart, decide_false, Bool.false_eq_true,
        if_false, hd]
      exact ih h.of_known
    | none =>
      have hother : ∀ part ∈ parts, part.name ≠ key := forall_part_name_ne hreads hfind
      rw [readMembers, hfind]
      simp only [h.others (key, d) (by simp) hother, if_true]
      exact ih (h.of_other hother)

/-- A document of the parts of a structure is read as the structure. -/
theorem structured_eq_ok (hreads : List.Forall₂ (Component.Reads state) components parts)
    {start whole : σ} (hstart : state [] = start)
    (hwhole : ∀ seen, (∀ part ∈ parts, part.Omissible ∨ part.name ∈ seen) → state seen = whole)
    {d : Document} (h : IsObjectOf parts d) (name : String) (origin : Origin) :
    structured name components origin start d = .ok whole := by
  obtain ⟨members, rfl, hmembers⟩ := h
  subst hstart
  exact readMembers_eq_ok hreads hwhole hmembers.leftTo

end Structures
end Decoding
end TableAccess
