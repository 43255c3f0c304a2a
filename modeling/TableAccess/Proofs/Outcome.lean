import Mathlib.Data.List.Forall2
import Mathlib.Tactic.Lemma
import TableAccess.Event

/-!
# Outcomes of calls

A chain of checks succeeds if every check does. The lemmas take such a chain apart, for plain
outcomes and for those with events.
-/

namespace TableAccess

section Except

variable {ε α β : Type}

theorem bind_eq_ok_iff {x : Except ε α} {f : α → Except ε β} {b : β} :
    x >>= f = .ok b ↔ ∃ a, x = .ok a ∧ f a = .ok b := by
  cases x <;> simp [bind, Except.bind]

theorem map_eq_ok_iff {x : Except ε α} {f : α → β} {b : β} :
    x.map f = .ok b ↔ ∃ a, x = .ok a ∧ f a = b := by
  cases x <;> simp [Except.map]

@[simp] lemma pure_eq_ok_iff {a b : α} : (pure a : Except ε α) = .ok b ↔ a = b := by
  simp [pure, Except.pure]

lemma ok_bind (a : α) (f : α → Except ε β) : Except.ok a >>= f = f a := by
  simp only [bind, Except.bind]

lemma map_ok (f : α → β) (a : α) : (Except.ok a : Except ε α).map f = .ok (f a) := by
  simp only [Except.map]

lemma pure_eq_ok (a : α) : (pure a : Except ε α) = .ok a := by
  simp only [pure, Except.pure]

theorem mapM_eq_ok_iff {f : α → Except ε β} {xs : List α} {ys : List β} :
    xs.mapM f = .ok ys ↔ List.Forall₂ (fun x y => f x = .ok y) xs ys := by
  induction xs generalizing ys with
  | nil => cases ys <;> simp
  | cons x xs ih =>
    rw [List.mapM_cons]
    constructor
    · intro h
      obtain ⟨y, hy, h⟩ := bind_eq_ok_iff.mp h
      obtain ⟨rest, hrest, h⟩ := bind_eq_ok_iff.mp h
      rw [pure_eq_ok_iff] at h
      rw [← h]
      exact .cons hy (ih.mp hrest)
    · intro h
      cases h with
      | cons hy hrest =>
        rw [bind_eq_ok_iff]
        refine ⟨_, hy, ?_⟩
        rw [bind_eq_ok_iff]
        exact ⟨_, ih.mpr hrest, rfl⟩

lemma length_of_mapM {f : α → Except ε β} {xs : List α} {ys : List β} (h : xs.mapM f = .ok ys) :
    ys.length = xs.length :=
  (mapM_eq_ok_iff.mp h).length_eq.symm

/-- Checks that all succeed give every element a result. -/
theorem mapM_eq_ok_iff_exists [Inhabited β] {f : α → Except ε β} {xs : List α} {ys : List β} :
    xs.mapM f = .ok ys ↔ ∃ g : α → β, (∀ x ∈ xs, f x = .ok (g x)) ∧ ys = xs.map g := by
  rw [mapM_eq_ok_iff]
  constructor
  · intro h
    let g : α → β := fun x => match f x with
      | .ok y => y
      | .error _ => default
    refine ⟨g, ?_⟩
    induction h with
    | nil => exact ⟨by simp, rfl⟩
    | @cons x y xs ys hy _ ih =>
      have hg : g x = y := by simp only [g, hy]
      refine ⟨?_, by rw [List.map_cons, hg, ← ih.2]⟩
      intro z hz
      rcases List.mem_cons.mp hz with rfl | hz
      · rw [hg, hy]
      · exact ih.1 z hz
  · rintro ⟨g, hg, rfl⟩
    induction xs with
    | nil => exact .nil
    | cons x xs ih => exact .cons (hg x (by simp)) (ih fun z hz => hg z (by simp [hz]))

/-- Checks that refuse with one error all refuse with it if one of them does. -/
lemma mapM_eq_error {f : α → Except ε β} {e : ε} {xs : List α}
    (hf : ∀ x d, f x = .error d → d = e) {x : α} (hx : x ∈ xs) (hrefused : f x = .error e) :
    xs.mapM f = .error e := by
  induction xs with
  | nil => simp at hx
  | cons y ys ih =>
    rw [List.mapM_cons]
    cases hy : f y with
    | error d => rw [hf y d hy]; rfl
    | ok b =>
      have hrest : x ∈ ys := by
        refine (List.mem_cons.mp hx).resolve_left ?_
        rintro rfl
        simp [hy] at hrefused
      rw [ok_bind, ih hrest]
      rfl

lemma exists_of_forall₂_mem {R : α → β → Prop} {xs : List α} {ys : List β}
    (h : List.Forall₂ R xs ys) {y : β} (hy : y ∈ ys) : ∃ x ∈ xs, R x y := by
  induction h with
  | nil => simp at hy
  | @cons x z xs ys hxz _ ih =>
    rcases List.mem_cons.mp hy with rfl | hy
    · exact ⟨x, by simp, hxz⟩
    · obtain ⟨w, hw, hwy⟩ := ih hy
      exact ⟨w, by simp [hw], hwy⟩

end Except

namespace Traced

variable {α β : Type}

lemma outcome_bind (t : Traced α) (f : α → Traced β) :
    (t >>= f).outcome = t.outcome >>= fun a => (f a).outcome := by
  change (t.bind f).outcome = _
  cases h : t.outcome <;> simp only [Traced.bind, h] <;> rfl

theorem outcome_bind_eq_ok_iff {t : Traced α} {f : α → Traced β} {b : β} :
    (t >>= f).outcome = .ok b ↔ ∃ a, t.outcome = .ok a ∧ (f a).outcome = .ok b := by
  rw [outcome_bind, bind_eq_ok_iff]

@[simp] lemma outcome_checked_eq_ok_iff {x : Except Refusal α} {a : α} :
    (checked x).outcome = .ok a ↔ x = .ok a := by
  cases x <;> simp [checked, Except.mapError]

@[simp] lemma outcome_pure_eq_ok_iff {a b : α} :
    (Pure.pure a : Traced α).outcome = .ok b ↔ a = b := by
  change Except.ok a = .ok b ↔ _
  simp

@[simp] lemma outcome_refuse_ne_ok {cause : Refusal} {a : α} :
    (refuse cause : Traced α).outcome ≠ .ok a := by
  simp [refuse]

end Traced
end TableAccess
