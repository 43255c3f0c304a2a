import Mathlib.Data.List.Induction
import Mathlib.Order.BoundedOrder.Lattice
import Mathlib.Tactic.Lemma
import TableAccess.Clause.Kind

/-!
# Formulas

SQL reads a chain of terms as a disjunction of conjunctions, because AND binds tighter than OR.
`Formula.Reads` is that grammar, and `Formula.Reads.value_eq` computes the truth of whatever it
reads from the chain. Truth values come from any bounded lattice, such as that of true and false
or the one with unknown between them.
-/

namespace TableAccess

/-- A piece of a chain of terms. -/
inductive Formula.Token (τ : Type) where
  | term (t : τ)
  | junction (j : Junction)
  deriving DecidableEq, Repr

namespace Formula.Token

variable {τ : Type}

/-- Terms behind another one, each behind its junction. -/
def continued (links : List (Junction × τ)) : List (Token τ) :=
  links.flatMap fun link => [.junction link.1, .term link.2]

/-- Terms one behind the other; the junction of the first one is left out. -/
def chain : List (Junction × τ) → List (Token τ)
  | [] => []
  | (_, t) :: links => .term t :: continued links

lemma continued_append (links more : List (Junction × τ)) :
    continued (links ++ more) = continued links ++ continued more :=
  List.flatMap_append

lemma continued_injective {links others : List (Junction × τ)}
    (h : continued links = continued others) : links = others := by
  induction links generalizing others with
  | nil =>
    cases others with
    | nil => rfl
    | cons other others => simp [continued] at h
  | cons link links ih =>
    cases others with
    | nil => simp [continued] at h
    | cons other others =>
      simp only [continued, List.flatMap_cons, List.cons_append, List.nil_append, List.cons.injEq,
        junction.injEq, term.injEq] at h
      obtain ⟨hj, ht, hrest⟩ := h
      rw [Prod.ext hj ht, ih hrest]

lemma chain_concat {links : List (Junction × τ)} (hne : links ≠ []) (j : Junction) (t : τ) :
    chain (links ++ [(j, t)]) = chain links ++ [.junction j, .term t] := by
  cases links with
  | nil => exact absurd rfl hne
  | cons link links =>
    rw [List.cons_append, chain, chain, continued_append]
    rfl

end Formula.Token

/-- Terms joined by AND and OR. -/
inductive Formula (τ : Type) where
  | term (t : τ)
  | and (f g : Formula τ)
  | or (f g : Formula τ)
  deriving DecidableEq, Repr

namespace Formula

variable {τ : Type}

/-- Terms with an AND between each two. -/
inductive Conjoins : List (Token τ) → Formula τ → Prop
  | term (t : τ) : Conjoins [.term t] (.term t)
  | and {tokens : List (Token τ)} {f : Formula τ} (h : Conjoins tokens f) (t : τ) :
    Conjoins (tokens ++ [.junction .and, .term t]) (.and f (.term t))

/-- Conjunctions with an OR between each two. -/
inductive Reads : List (Token τ) → Formula τ → Prop
  | conjunction {tokens : List (Token τ)} {f : Formula τ} (h : Conjoins tokens f) :
    Reads tokens f
  | or {tokens more : List (Token τ)} {f g : Formula τ} (hf : Reads tokens f)
    (hg : Conjoins more g) : Reads (tokens ++ .junction .or :: more) (.or f g)

lemma Reads.exists_and {tokens : List (Token τ)} {f : Formula τ} (h : Reads tokens f) (t : τ) :
    ∃ g, Reads (tokens ++ [.junction .and, .term t]) g := by
  cases h with
  | conjunction h => exact ⟨_, .conjunction (h.and t)⟩
  | or hf hg =>
    rw [List.append_assoc, List.cons_append]
    exact ⟨_, .or hf (hg.and t)⟩

/-- Every chain is read. -/
theorem exists_reads {links : List (Junction × τ)} (hne : links ≠ []) :
    ∃ f, Reads (Token.chain links) f := by
  -- the chain grows at its end, where an AND only changes the last conjunction
  induction links using List.reverseRecOn with
  | nil => exact absurd rfl hne
  | append_singleton links link ih =>
    obtain ⟨j, t⟩ := link
    by_cases hempty : links = []
    · rw [hempty]
      exact ⟨_, .conjunction (.term t)⟩
    · rw [Token.chain_concat hempty]
      obtain ⟨f, hf⟩ := ih hempty
      cases j with
      | and => exact hf.exists_and t
      | or => exact ⟨_, .or hf (.term t)⟩

section Value

variable {α : Type} [Lattice α]

/-- The truth of a formula whose terms have the given truth. -/
def value (v : τ → α) : Formula τ → α
  | term t => v t
  | and f g => f.value v ⊓ g.value v
  | or f g => f.value v ⊔ g.value v

/-- The truth of a chain that a conjunction of the given truth opens. -/
def continuedValue (x : α) : List (Junction × α) → α
  | [] => x
  | (.and, y) :: links => continuedValue (x ⊓ y) links
  | (.or, y) :: links => x ⊔ continuedValue y links

lemma continuedValue_or (x y : α) (links more : List (Junction × α)) :
    continuedValue x (links ++ (.or, y) :: more) =
      continuedValue x links ⊔ continuedValue y more := by
  induction links generalizing x with
  | nil => rfl
  | cons link links ih =>
    obtain ⟨j, z⟩ := link
    cases j with
    | and => exact ih (x ⊓ z)
    | or => rw [List.cons_append, continuedValue, continuedValue, ih, sup_assoc]

variable [BoundedOrder α]

/-- All of the given truth values. -/
def allOf (xs : List α) : α :=
  xs.foldr (· ⊓ ·) ⊤

/-- Any of the given truth values. -/
def anyOf (xs : List α) : α :=
  xs.foldr (· ⊔ ·) ⊥

lemma allOf_append (xs ys : List α) : allOf (xs ++ ys) = allOf xs ⊓ allOf ys := by
  induction xs with
  | nil => exact (top_inf_eq _).symm
  | cons x xs ih =>
    change x ⊓ allOf (xs ++ ys) = x ⊓ allOf xs ⊓ allOf ys
    rw [ih, inf_assoc]

lemma anyOf_append (xs ys : List α) : anyOf (xs ++ ys) = anyOf xs ⊔ anyOf ys := by
  induction xs with
  | nil => exact (bot_sup_eq _).symm
  | cons x xs ih =>
    change x ⊔ anyOf (xs ++ ys) = x ⊔ anyOf xs ⊔ anyOf ys
    rw [ih, sup_assoc]

lemma continuedValue_and (x : α) (ys : List α) (links : List (Junction × α)) :
    continuedValue x (ys.map (.and, ·) ++ links) = continuedValue (allOf (x :: ys)) links := by
  induction ys generalizing x with
  | nil => rw [show allOf [x] = x from inf_top_eq x]; rfl
  | cons y ys ih =>
    rw [List.map_cons, List.cons_append, continuedValue, ih]
    congr 1
    exact inf_assoc x y (allOf ys)

lemma continuedValue_ands (v : τ → α) (t : τ) (ts : List τ) :
    continuedValue (v t) ((ts.map (Junction.and, ·)).map (Prod.map id v)) =
      allOf ((t :: ts).map v) := by
  have h := continuedValue_and (v t) (ts.map v) []
  rw [List.append_nil, List.map_map] at h
  rw [List.map_map]
  exact h

/-- The truth of a chain. -/
def chainValue : List (Junction × α) → α
  | [] => ⊥
  | (_, x) :: links => continuedValue x links

lemma Conjoins.exists_terms {tokens : List (Token τ)} {f : Formula τ} (h : Conjoins tokens f)
    (v : τ → α) : ∃ t ts, tokens = .term t :: Token.continued (ts.map (.and, ·)) ∧
      f.value v = allOf ((t :: ts).map v) := by
  induction h with
  | term t => exact ⟨t, [], rfl, (inf_top_eq _).symm⟩
  | and h t ih =>
    obtain ⟨s, ts, rfl, hvalue⟩ := ih
    refine ⟨s, ts ++ [t], ?_, ?_⟩
    · rw [List.map_append, Token.continued_append]
      rfl
    · rw [value, value, hvalue, ← List.cons_append, List.map_append, allOf_append]
      exact congrArg _ (inf_top_eq _).symm

lemma Reads.exists_links {tokens : List (Token τ)} {f : Formula τ} (h : Reads tokens f)
    (v : τ → α) : ∃ t links, tokens = .term t :: Token.continued links ∧
      f.value v = continuedValue (v t) (links.map (Prod.map id v)) := by
  induction h with
  | conjunction h =>
    obtain ⟨t, ts, rfl, hvalue⟩ := h.exists_terms v
    exact ⟨t, _, rfl, by rw [hvalue, continuedValue_ands]⟩
  | or hf hg ih =>
    obtain ⟨t, links, rfl, hvalue⟩ := ih
    obtain ⟨s, ts, rfl, hmore⟩ := hg.exists_terms v
    refine ⟨t, links ++ (.or, s) :: ts.map (.and, ·), ?_, ?_⟩
    · rw [Token.continued_append]
      rfl
    · have hcons : ((Junction.or, s) :: ts.map (Junction.and, ·)).map (Prod.map id v) =
          (.or, v s) :: (ts.map (Junction.and, ·)).map (Prod.map id v) := rfl
      rw [value, hvalue, hmore, List.map_append, hcons, continuedValue_or, continuedValue_ands]

/-- However a chain is read, its truth is that of the chain. -/
theorem Reads.value_eq {links : List (Junction × τ)} {f : Formula τ}
    (h : Reads (Token.chain links) f) (v : τ → α) :
    f.value v = chainValue (links.map (Prod.map id v)) := by
  obtain ⟨t, others, hchain, hvalue⟩ := h.exists_links v
  cases links with
  | nil => simp [Token.chain] at hchain
  | cons link links =>
    simp only [Token.chain, List.cons.injEq, Token.term.injEq] at hchain
    obtain ⟨ht, hlinks⟩ := hchain
    rw [hvalue, List.map_cons, chainValue, ← ht, Token.continued_injective hlinks]
    rfl

end Value
end Formula
end TableAccess
