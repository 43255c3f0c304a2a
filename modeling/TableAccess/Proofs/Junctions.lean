import Mathlib.Data.List.SplitBy
import TableAccess.Proofs.Blanks
import TableAccess.Proofs.Formula
import TableAccess.Proofs.Lexeme

/-!
# Junctions in the text of a condition

`Condition.tokens` cuts a text at every AND and OR outside of parentheses, as SQL does before it
reads the pieces. Where terms stand with an AND between each two, the cut gives back these terms
if and only if none of them brings an AND or OR of its own: `Condition.tokens_intercalate_iff`.
-/

namespace TableAccess

/-- The junction that a word is, in either case. -/
def Junction.ofWord? (word : List Char) : Option Junction :=
  if Text.lower word = ['a', 'n', 'd'] then some .and
  else if Text.lower word = ['o', 'r'] then some .or
  else none

/-- Whatever SQL reads in terms with an AND between each two holds where all of them do. -/
theorem Formula.Reads.value_eq_allOf {τ α : Type} [Lattice α] [BoundedOrder α] {ts : List τ}
    (hne : ts ≠ []) {f : Formula τ} (h : Reads (Token.chain (ts.map (.and, ·))) f) (v : τ → α) :
    f.value v = allOf (ts.map v) := by
  obtain ⟨t, ts, rfl⟩ := List.exists_cons_of_ne_nil hne
  rw [h.value_eq]
  exact continuedValue_ands v t ts

namespace Condition

open Formula

/-- The maximal runs of identifier characters; any other character stands alone. -/
def runs (cs : List Char) : List (List Char) :=
  cs.splitBy fun c d => Lexeme.continuesWord c && Lexeme.continuesWord d

/-- How many more parentheses a text opens than it closes. -/
def nesting (cs : List Char) : Int :=
  cs.count '(' - cs.count ')'

/-- The junction that a run is when so many parentheses are open. -/
def junctionAt? (depth : Int) (run : List Char) : Option Junction :=
  if depth = 0 then Junction.ofWord? run else none

/-- The junctions among runs that stand at a depth. -/
def junctionsFrom (depth : Int) : List (List Char) → List Junction
  | [] => []
  | run :: rest => (junctionAt? depth run).toList ++ junctionsFrom (depth + nesting run) rest

/-- The pieces between the junctions of runs that stand at a depth, the first of which has already
begun with `piece`. -/
def tokensFrom (depth : Int) (piece : List Char) : List (List Char) → List (Token (List Char))
  | [] => [.term (Text.trim piece)]
  | run :: rest =>
    match junctionAt? depth run with
    | some j =>
      .term (Text.trim piece) :: .junction j :: tokensFrom (depth + nesting run) [] rest
    | none => tokensFrom (depth + nesting run) (piece ++ run) rest

/-- The words AND and OR of a text that stand outside of parentheses. -/
def junctions (cs : List Char) : List Junction :=
  junctionsFrom 0 (runs cs)

/-- The junctions of a text outside of parentheses and the pieces between them, without the blanks
at their ends. -/
def tokens (cs : List Char) : List (Token (List Char)) :=
  tokensFrom 0 [] (runs cs)

/-- A junction inside parentheses or a longer word is none. -/
example : tokens "android = f(a or b) And c".toList =
    [.term "android = f(a or b)".toList, .junction .and, .term "c".toList] := by decide +kernel

@[simp] lemma nesting_nil : nesting [] = 0 := rfl

@[simp] lemma nesting_append (cs ds : List Char) :
    nesting (cs ++ ds) = nesting cs + nesting ds := by
  simp only [nesting, List.count_append]
  omega

lemma junctionsFrom_append (depth : Int) (rs ss : List (List Char)) :
    junctionsFrom depth (rs ++ ss) =
      junctionsFrom depth rs ++ junctionsFrom (depth + nesting rs.flatten) ss := by
  induction rs generalizing depth with
  | nil => simp [junctionsFrom]
  | cons run rs ih =>
    simp only [List.cons_append, junctionsFrom, ih, List.flatten_cons, nesting_append,
      List.append_assoc, Int.add_assoc]

/-- Runs without a junction belong to the piece that has begun. -/
lemma tokensFrom_append {depth : Int} {rs : List (List Char)} (h : junctionsFrom depth rs = [])
    (piece : List Char) (ss : List (List Char)) :
    tokensFrom depth piece (rs ++ ss) =
      tokensFrom (depth + nesting rs.flatten) (piece ++ rs.flatten) ss := by
  induction rs generalizing depth piece with
  | nil => simp
  | cons run rs ih =>
    simp only [junctionsFrom, List.append_eq_nil_iff, Option.toList_eq_nil_iff] at h
    rw [List.cons_append, tokensFrom, h.1]
    simp only [ih h.2, List.flatten_cons, nesting_append, List.append_assoc, Int.add_assoc]

/-- The junction that a token is. -/
def junction? : Token (List Char) → Option Junction
  | .term _ => none
  | .junction j => some j

lemma filterMap_tokensFrom (depth : Int) (piece : List Char) (rs : List (List Char)) :
    (tokensFrom depth piece rs).filterMap junction? = junctionsFrom depth rs := by
  induction rs generalizing depth piece with
  | nil => rfl
  | cons run rs ih =>
    rw [tokensFrom, junctionsFrom]
    cases junctionAt? depth run <;> simp [List.filterMap_cons, junction?, ih]

lemma length_junctions_chain (t : List Char) (ts : List (List Char)) :
    ((Token.chain ((t :: ts).map (Junction.and, ·))).filterMap junction?).length = ts.length := by
  have hcontinued : ((Token.continued (ts.map (Junction.and, ·))).filterMap junction?).length =
      ts.length := by
    induction ts with
    | nil => rfl
    | cons u us ih => simpa [Token.continued, List.filterMap_cons, junction?] using ih
  simpa [Token.chain, List.filterMap_cons, junction?] using hcontinued

/-- Text that may be a piece of its own: it begins and ends with something visible and closes the
parentheses that it opens. -/
structure IsTerm (cs : List Char) : Prop where
  nesting_eq : nesting cs = 0
  head : ∃ c, cs.head? = some c ∧ Text.isBlank c = false
  last : ∃ c, cs.getLast? = some c ∧ Text.isBlank c = false

lemma IsTerm.isTrimmed {cs : List Char} (h : IsTerm cs) : Text.IsTrimmed cs := by
  obtain ⟨c, hc, hhead⟩ := h.head
  obtain ⟨d, hd, hlast⟩ := h.last
  exact ⟨by simpa [hc] using hhead, by simpa [hd] using hlast⟩

lemma IsTerm.trim_around {front cs back : List Char} (h : IsTerm cs) (hfront : Text.IsGap front)
    (hback : Text.IsGap back) : Text.trim (front ++ cs ++ back) = cs := by
  rw [Text.trim_around hfront hback, h.isTrimmed.trim_eq_self]

/-- What stands between two terms. -/
def between : List Char :=
  [' ', 'A', 'N', 'D', ' ']

lemma runs_append {cs ds : List Char} (h : ∀ x ∈ cs.getLast?, ∀ y ∈ ds.head?,
    (Lexeme.continuesWord x && Lexeme.continuesWord y) = false) :
    runs (cs ++ ds) = runs cs ++ runs ds :=
  List.splitBy_append h

lemma flatten_runs (cs : List Char) : (runs cs).flatten = cs :=
  List.flatten_splitBy _ cs

lemma runs_around (cs ds : List Char) :
    runs (cs ++ between ++ ds) = runs cs ++ ([' '] :: ['A', 'N', 'D'] :: [' '] :: runs ds) := by
  have hblank : Lexeme.continuesWord ' ' = false := by decide
  have hbetween : runs between = [[' '], ['A', 'N', 'D'], [' ']] := by decide
  rw [List.append_assoc, runs_append, runs_append, hbetween]
  · rfl
  · simp [between, hblank]
  · simp [between, hblank]

lemma junctions_around {cs : List Char} (h : nesting cs = 0) (ds : List Char) :
    junctions (cs ++ between ++ ds) = junctions cs ++ .and :: junctions ds := by
  rw [junctions, runs_around, junctionsFrom_append, flatten_runs, h]
  rfl

/-- Terms without junctions are the pieces between the ANDs that join them. -/
lemma tokensFrom_intercalate {t : List Char} {ts : List (List Char)}
    (hterms : ∀ u ∈ t :: ts, IsTerm u) (h : ∀ u ∈ t :: ts, junctions u = []) {piece : List Char}
    (hpiece : ∀ c ∈ piece, Text.isBlank c = true) :
    tokensFrom 0 piece (runs (between.intercalate (t :: ts))) =
      Token.chain ((t :: ts).map (.and, ·)) := by
  -- a term is preceded by the blank of the AND before it, if there is one
  induction ts generalizing t piece with
  | nil =>
    obtain ⟨ht, -⟩ := List.forall_mem_cons.mp hterms
    obtain ⟨hj, -⟩ := List.forall_mem_cons.mp h
    have hone := tokensFrom_append hj piece []
    rw [List.append_nil, flatten_runs, tokensFrom] at hone
    have htrim := ht.trim_around hpiece (List.forall_mem_nil _)
    rw [List.append_nil] at htrim
    rw [List.intercalate_singleton, hone, htrim]
    rfl
  | cons u us ih =>
    obtain ⟨ht, hus⟩ := List.forall_mem_cons.mp hterms
    obtain ⟨hj, hjs⟩ := List.forall_mem_cons.mp h
    have hblank : ∀ c ∈ [' '], Text.isBlank c = true := List.forall_mem_singleton.mpr rfl
    have htrim := ht.trim_around hpiece hblank
    have hrest := ih hus hjs hblank
    rw [List.intercalate_cons_cons, runs_around, tokensFrom_append hj, flatten_runs,
      ht.nesting_eq]
    change Token.term (Text.trim (piece ++ t ++ [' '])) :: .junction .and ::
      tokensFrom 0 [' '] (runs (between.intercalate (u :: us))) = _
    rw [htrim, hrest]
    rfl

lemma length_junctions_intercalate {t : List Char} {ts : List (List Char)}
    (hterms : ∀ u ∈ t :: ts, IsTerm u) :
    (junctions (between.intercalate (t :: ts))).length =
      ((t :: ts).flatMap junctions).length + ts.length := by
  induction ts generalizing t with
  | nil => simp
  | cons u us ih =>
    obtain ⟨ht, hus⟩ := List.forall_mem_cons.mp hterms
    rw [List.intercalate_cons_cons, junctions_around ht.nesting_eq, List.length_append,
      List.length_cons, ih hus]
    simp only [List.flatMap_cons, List.length_append, List.length_cons]
    omega

/-- Terms with an AND between each two are cut apart again, unless a term brings a junction of its
own. -/
theorem tokens_intercalate_iff {ts : List (List Char)} (hne : ts ≠ [])
    (hterms : ∀ t ∈ ts, IsTerm t) :
    tokens (between.intercalate ts) = Token.chain (ts.map (.and, ·)) ↔
      ∀ t ∈ ts, junctions t = [] := by
  obtain ⟨t, ts, rfl⟩ := List.exists_cons_of_ne_nil hne
  constructor
  · intro h
    have hcount : (junctions (between.intercalate (t :: ts))).length = ts.length := by
      rw [← length_junctions_chain t ts, ← h, tokens, filterMap_tokensFrom]
      rfl
    rw [length_junctions_intercalate hterms] at hcount
    have hnone : ((t :: ts).flatMap junctions).length = 0 := by omega
    exact List.flatMap_eq_nil_iff.mp (List.length_eq_zero_iff.mp hnone)
  · exact fun h => tokensFrom_intercalate hterms h (List.forall_mem_nil _)

/-- Text that only continues a piece. -/
structure IsTail (cs : List Char) : Prop where
  nesting_eq : nesting cs = 0
  head : cs.head? = some ' '
  last : ∃ c, cs.getLast? = some c ∧ Text.isBlank c = false
  letters : ∀ c ∈ cs, c.toLower ≠ 'd' ∧ c.toLower ≠ 'r'

lemma ofWord?_eq_none {run : List Char} (h : ∀ c ∈ run, c.toLower ≠ 'd' ∧ c.toLower ≠ 'r') :
    Junction.ofWord? run = none := by
  have hd : 'd' ∉ Text.lower run := by
    intro hmem
    obtain ⟨c, hc, hlower⟩ := List.mem_map.mp hmem
    exact (h c hc).1 hlower
  have hr : 'r' ∉ Text.lower run := by
    intro hmem
    obtain ⟨c, hc, hlower⟩ := List.mem_map.mp hmem
    exact (h c hc).2 hlower
  have hand : Text.lower run ≠ ['a', 'n', 'd'] := fun heq => hd (by simp [heq])
  have hor : Text.lower run ≠ ['o', 'r'] := fun heq => hr (by simp [heq])
  rw [Junction.ofWord?, if_neg hand, if_neg hor]

/-- No word without the last letters of AND and OR is one of them. -/
lemma junctionsFrom_eq_nil {rs : List (List Char)}
    (h : ∀ c ∈ rs.flatten, c.toLower ≠ 'd' ∧ c.toLower ≠ 'r') (depth : Int) :
    junctionsFrom depth rs = [] := by
  induction rs generalizing depth with
  | nil => rfl
  | cons run rs ih =>
    have hrun : ∀ c ∈ run, c.toLower ≠ 'd' ∧ c.toLower ≠ 'r' := fun c hc => h c (by simp [hc])
    have hrest := ih (fun c hc => h c (by simp [hc])) (depth + nesting run)
    rw [junctionsFrom, junctionAt?, ofWord?_eq_none hrun, ite_self, hrest]
    rfl

lemma junctions_eq_nil {cs : List Char} (h : ∀ c ∈ cs, c.toLower ≠ 'd' ∧ c.toLower ≠ 'r') :
    junctions cs = [] :=
  junctionsFrom_eq_nil (by rwa [flatten_runs]) 0

/-- A text is continued to a term without further junctions. -/
lemma IsTail.append {tail : List Char} (htail : IsTail tail) {cs : List Char}
    (hnesting : nesting cs = 0) (hhead : ∃ c, cs.head? = some c ∧ Text.isBlank c = false) :
    IsTerm (cs ++ tail) ∧ junctions (cs ++ tail) = junctions cs := by
  have hblank : Lexeme.continuesWord ' ' = false := by decide
  have hruns : runs (cs ++ tail) = runs cs ++ runs tail :=
    runs_append (by simp [htail.head, hblank])
  obtain ⟨c, hc, hvisible⟩ := hhead
  obtain ⟨d, hd, hlast⟩ := htail.last
  refine ⟨⟨?_, ⟨c, by simp [hc], hvisible⟩, ⟨d, by simp [hd], hlast⟩⟩, ?_⟩
  · rw [nesting_append, hnesting, htail.nesting_eq]
    rfl
  · have hnone : junctionsFrom 0 (runs tail) = [] := junctions_eq_nil htail.letters
    rw [junctions, hruns, junctionsFrom_append, flatten_runs, hnesting, Int.zero_add, hnone,
      List.append_nil]
    rfl

end Condition
end TableAccess
