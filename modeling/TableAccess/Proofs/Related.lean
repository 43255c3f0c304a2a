import Mathlib.Data.List.Forall2
import Mathlib.Tactic.Lemma
import TableAccess.Event

/-!
# Related outcomes

Two calls have related outcomes if both fail, or both succeed with related results. Calls that
take related results on to related outcomes can be chained.
-/

namespace TableAccess

/-- Both outcomes are failures, or both are successes with related results. -/
inductive Related {ε α β : Type} (R : α → β → Prop) : Except ε α → Except ε β → Prop
  | ok {a : α} {b : β} (h : R a b) : Related R (.ok a) (.ok b)
  | error {e f : ε} : Related R (.error e) (.error f)

namespace Related

variable {ε α β γ δ : Type} {R : α → β → Prop} {S : γ → δ → Prop} {x : Except ε α}
  {y : Except ε β}

theorem bind (h : Related R x y) {f : α → Except ε γ} {g : β → Except ε δ}
    (hfg : ∀ a b, R a b → Related S (f a) (g b)) : Related S (x >>= f) (y >>= g) := by
  cases h with
  | ok h => exact hfg _ _ h
  | error => exact .error

theorem map (h : Related R x y) {f : α → γ} {g : β → δ} (hfg : ∀ a b, R a b → S (f a) (g b)) :
    Related S (x.map f) (y.map g) := by
  cases h with
  | ok h => exact .ok (hfg _ _ h)
  | error => exact .error

/-- What is related to a success is one. -/
lemma exists_of_ok {a : α} (h : Related R (.ok a) y) : ∃ b, y = .ok b ∧ R a b := by
  cases h with
  | ok h => exact ⟨_, rfl, h⟩

lemma refl {P : α → α → Prop} (hP : ∀ a, P a a) (x : Except ε α) : Related P x x := by
  cases x with
  | ok a => exact .ok (hP a)
  | error e => exact .error

lemma same (x : Except ε α) : Related Eq x x :=
  refl (fun _ => rfl) x

lemma bind_same (x : Except ε α) {f : α → Except ε γ} {g : α → Except ε δ}
    (hfg : ∀ a, Related S (f a) (g a)) : Related S (x >>= f) (x >>= g) := by
  refine (same x).bind ?_
  rintro a _ rfl
  exact hfg a

lemma mapError (h : Related R x y) {ζ : Type} (f : ε → ζ) :
    Related R (x.mapError f) (y.mapError f) := by
  cases h with
  | ok h => exact .ok h
  | error => exact .error

theorem mapM {as : List α} {bs : List β} (h : List.Forall₂ R as bs) {f : α → Except ε γ}
    {g : β → Except ε δ} (hfg : ∀ a b, R a b → Related S (f a) (g b)) :
    Related (List.Forall₂ S) (as.mapM f) (bs.mapM g) := by
  induction h with
  | nil => exact .ok .nil
  | cons hab _ ih =>
    rw [List.mapM_cons, List.mapM_cons]
    refine (hfg _ _ hab).bind ?_
    intro c d hcd
    refine ih.bind ?_
    intro cs ds hrest
    exact .ok (.cons hcd hrest)

end Related

namespace Traced

variable {α β γ δ : Type} {R : α → β → Prop} {S : γ → δ → Prop}

theorem related_bind {t : Traced α} {u : Traced β} (h : Related R t.outcome u.outcome)
    {f : α → Traced γ} {g : β → Traced δ}
    (hfg : ∀ a b, R a b → Related S (f a).outcome (g b).outcome) :
    Related S (t >>= f).outcome (u >>= g).outcome := by
  change Related S (t.bind f).outcome (u.bind g).outcome
  cases ht : t.outcome with
  | error e =>
    rw [ht] at h
    cases hu : u.outcome with
    | error e' => simpa [Traced.bind, ht, hu] using Related.error
    | ok b => rw [hu] at h; cases h
  | ok a =>
    rw [ht] at h
    cases hu : u.outcome with
    | error e => rw [hu] at h; cases h
    | ok b =>
      rw [hu] at h
      cases h with
      | ok h => simpa [Traced.bind, ht, hu] using hfg a b h

lemma related_bind_same (t : Traced α) {f : α → Traced γ} {g : α → Traced δ}
    (hfg : ∀ a, Related S (f a).outcome (g a).outcome) :
    Related S (t >>= f).outcome (t >>= g).outcome := by
  refine related_bind (Related.same t.outcome) ?_
  rintro a _ rfl
  exact hfg a

lemma related_checked {x : Except Refusal α} {y : Except Refusal β} (h : Related R x y) :
    Related R (checked x).outcome (checked y).outcome :=
  h.mapError _

end Traced
end TableAccess
