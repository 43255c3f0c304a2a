import TableAccess.Draft
import TableAccess.Proofs.Template

/-!
# What drafts are rendered to

The steps that write a draft come to a list of pieces: a text for what is written and a slot for
each value. `Draft.Holds` says that a draft is rendered like pieces. Every step keeps it, however
its texts are merged and its drafts are nested, and the pieces say which number a slot gets.
-/

namespace TableAccess

/-- A piece as it is written behind others, whose slots it counts. -/
def Piece.writtenBehind (front : List Piece) : Piece → String
  | .text s => s
  | .slot _ => "$" ++ toString ((front.filterMap Piece.value?).length + 1)

namespace Template

/-- The text of pieces, each as it is written behind those before it. -/
def numbered (pieces : List Piece) : String :=
  String.join (pieces.mapIdx fun n piece => piece.writtenBehind (pieces.take n))

example : numbered [.text "a = ", .slot .null, .text " OR b = ", .slot (.bool true)] =
    "a = $1 OR b = $2" := by decide

lemma renderFrom_behind (front pieces : List Piece) :
    renderFrom (front.filterMap Piece.value?).length pieces =
      String.join (pieces.mapIdx fun n piece => piece.writtenBehind (front ++ pieces.take n)) := by
  induction pieces generalizing front with
  | nil => rfl
  | cons piece pieces ih =>
    have hrest := ih (front ++ [piece])
    rw [List.mapIdx_cons, String.join_cons, List.take_zero, List.append_nil]
    simp only [List.take_succ_cons, List.append_assoc, List.singleton_append] at hrest ⊢
    rw [← hrest]
    cases piece with
    | text s => simp [renderFrom, Piece.writtenBehind, Piece.value?, List.filterMap_cons]
    | slot v => simp [renderFrom, Piece.writtenBehind, Piece.value?]

theorem renderFrom_eq_numbered (pieces : List Piece) : renderFrom 0 pieces = numbered pieces :=
  renderFrom_behind [] pieces

end Template

namespace Draft

lemma renderFrom_append (count : Nat) (front rest : List Part) :
    renderFrom count (front ++ rest) =
      renderFrom count front ++ renderFrom (count + front.count .slot) rest := by
  induction front generalizing count with
  | nil => simp [renderFrom]
  | cons part front ih =>
    cases part with
    | text s => simp [renderFrom, ih, String.append_assoc]
    | slot => simp [renderFrom, ih, String.append_assoc, Nat.add_assoc, Nat.add_comm 1]

lemma renderFrom_extend (count : Nat) (s : String) (parts : List Part) :
    renderFrom count (extend s parts) = renderFrom count parts ++ s := by
  induction parts using extend.induct generalizing count with
  | case1 => simp [extend, renderFrom]
  | case2 front => simp [extend, renderFrom]
  | case3 part parts hlast ih =>
    rw [extend]
    · cases part with
      | text t => simp only [renderFrom, ih, String.append_assoc]
      | slot => simp only [renderFrom, ih, String.append_assoc]
    · exact hlast

lemma count_extend (s : String) (parts : List Part) :
    (extend s parts).count .slot = parts.count .slot := by
  induction parts using extend.induct with
  | case1 => rfl
  | case2 front => rfl
  | case3 part parts hlast ih =>
    rw [extend, List.count_cons, List.count_cons, ih]
    exact hlast

/-- Nothing is rendered if and only if there is no slot and every text is empty. -/
lemma isEmpty_iff (d : Draft) : d.isEmpty = true ↔ d.sql = "" := by
  obtain ⟨parts, values⟩ := d
  have hrender (count : Nat) : renderFrom count parts = "" ↔ parts.all Part.isEmpty = true := by
    induction parts generalizing count with
    | nil => simp [renderFrom]
    | cons part parts ih =>
      cases part with
      | text s => simp [renderFrom, Part.isEmpty, ih]
      | slot => simp [renderFrom, Part.isEmpty]
  exact (hrender 0).symm

/-- A draft is rendered like pieces, and has their values. -/
structure Holds (d : Draft) (pieces : List Piece) : Prop where
  render : ∀ count, renderFrom count d.parts = Template.renderFrom count pieces
  slots : d.parts.count .slot = (pieces.filterMap Piece.value?).length
  values : d.values = pieces.filterMap Piece.value?

variable {d e : Draft} {pieces more : List Piece}

lemma holds_empty : empty.Holds [] :=
  ⟨fun _ => rfl, rfl, rfl⟩

/-- An empty text is no more than no text at all. -/
lemma holds_blank : (ofText "").Holds [] :=
  ⟨fun _ => rfl, rfl, rfl⟩

lemma Holds.write (h : d.Holds pieces) (s : String) : (d.write s).Holds (pieces ++ [.text s]) where
  render count := by
    have hpiece (n : Nat) : Template.renderFrom n [.text s] = s := by
      simp [Template.renderFrom]
    rw [Draft.write, renderFrom_extend, h.render, Template.renderFrom_append, hpiece]
  slots := by
    rw [Draft.write, count_extend, h.slots]
    simp [Piece.value?]
  values := by
    rw [Draft.write, h.values]
    simp [Piece.value?]

lemma Holds.push (h : d.Holds pieces) (s : String) : (d.push s).Holds (pieces ++ [.text s]) := by
  rw [Draft.push]
  split_ifs with hs
  · have hempty : s = "" := String.isEmpty_iff.mp hs
    refine ⟨?_, ?_, ?_⟩
    · intro count
      rw [h.render, Template.renderFrom_append, hempty]
      simp [Template.renderFrom]
    · rw [h.slots]
      simp [Piece.value?]
    · rw [h.values]
      simp [Piece.value?]
  · exact h.write s

lemma Holds.bind (h : d.Holds pieces) (v : Value) : (d.bind v).Holds (pieces ++ [.slot v]) where
  render count := by
    rw [Draft.bind, renderFrom_append, Template.renderFrom_append, h.render, h.slots]
    rfl
  slots := by
    rw [Draft.bind, List.count_append, h.slots]
    simp [Piece.value?]
  values := by
    rw [Draft.bind, h.values]
    simp [Piece.value?]

/-- The slots of a list of values. -/
def listed (vs : List Value) : List Piece :=
  (vs.map Piece.slot).intersperse (.text ", ")

lemma Holds.bindList (h : d.Holds pieces) (vs : List Value) :
    (d.bindList vs).Holds (pieces ++ listed vs) := by
  cases vs with
  | nil =>
    rw [listed, List.map_nil, List.intersperse_nil, List.append_nil]
    exact h
  | cons v vs =>
    -- a comma and a slot at a time, behind the slot of the first value
    rw [Draft.bindList]
    induction vs generalizing d pieces v with
    | nil => exact h.bind v
    | cons w vs ih =>
      have hcomma := (h.bind v).push ", "
      have hrest := ih hcomma w
      have hlisted : listed (v :: w :: vs) = [.slot v] ++ [.text ", "] ++ listed (w :: vs) := by
        simp [listed]
      rw [hlisted, ← List.append_assoc, ← List.append_assoc]
      exact hrest

lemma values_take (d : Draft) (part : Part) : (d.take part).values = d.values := by
  cases part with
  | slot => rfl
  | text s =>
    rw [Draft.take, Draft.push]
    split_ifs <;> rfl

lemma count_take (d : Draft) (part : Part) :
    (d.take part).parts.count .slot = d.parts.count .slot + [part].count .slot := by
  cases part with
  | slot => exact List.count_append
  | text s =>
    rw [Draft.take, Draft.push]
    split_ifs
    · simp
    · rw [Draft.write, count_extend]
      simp

lemma renderFrom_take (count : Nat) (d : Draft) (part : Part) :
    renderFrom count (d.take part).parts =
      renderFrom count d.parts ++ renderFrom (count + d.parts.count .slot) [part] := by
  cases part with
  | slot => exact renderFrom_append count d.parts [.slot]
  | text s =>
    rw [Draft.take, Draft.push]
    split_ifs with hs
    · simp [renderFrom, String.isEmpty_iff.mp hs]
    · rw [Draft.write, renderFrom_extend]
      simp [renderFrom]

lemma values_foldl_take (d : Draft) (parts : List Part) :
    (parts.foldl take d).values = d.values := by
  induction parts generalizing d with
  | nil => rfl
  | cons part parts ih => rw [List.foldl_cons, ih, values_take]

lemma count_foldl_take (d : Draft) (parts : List Part) :
    (parts.foldl take d).parts.count .slot = d.parts.count .slot + parts.count .slot := by
  induction parts generalizing d with
  | nil => rfl
  | cons part parts ih =>
    have hparts : (part :: parts).count .slot = [part].count .slot + parts.count .slot := by
      rw [← List.count_append, List.singleton_append]
    rw [List.foldl_cons, ih, count_take, hparts, Nat.add_assoc]

/-- The parts that are taken in are numbered behind the slots that are there. -/
lemma renderFrom_foldl_take (count : Nat) (d : Draft) (parts : List Part) :
    renderFrom count (parts.foldl take d).parts =
      renderFrom count d.parts ++ renderFrom (count + d.parts.count .slot) parts := by
  induction parts generalizing d with
  | nil => simp [renderFrom]
  | cons part parts ih =>
    have hparts : renderFrom (count + d.parts.count .slot) (part :: parts) =
        renderFrom (count + d.parts.count .slot) [part] ++
          renderFrom (count + d.parts.count .slot + [part].count .slot) parts := by
      rw [← renderFrom_append, List.singleton_append]
    rw [List.foldl_cons, ih, renderFrom_take, count_take, hparts, String.append_assoc,
      Nat.add_assoc]

lemma Holds.append (hd : d.Holds pieces) (he : e.Holds more) :
    (d.append e).Holds (pieces ++ more) := by
  refine ⟨?_, ?_, ?_⟩
  · intro count
    rw [Draft.append, renderFrom_foldl_take, hd.render, he.render, hd.slots,
      Template.renderFrom_append]
  · rw [Draft.append, count_foldl_take, hd.slots, he.slots, List.filterMap_append,
      List.length_append]
  · rw [Draft.append, values_foldl_take, hd.values, he.values, List.filterMap_append]

/-- What a draft begins with. -/
def begun : Option String → List Piece
  | none => []
  | some s => [.text s]

mutual

/-- What a step writes. -/
def Step.pieces : Step → List Piece
  | .push s => [.text s]
  | .bind v => [.slot v]
  | .bindList vs => listed vs
  | .identifier i => [.text i.sql]
  | .table t => [.text t.sql]
  | .fragment f => [.text f.text]
  | .splice start steps => begun start ++ written steps

/-- What steps write one after the other. -/
def written : List Step → List Piece
  | [] => []
  | step :: steps => step.pieces ++ written steps

end

lemma holds_opening (start : Option String) : (opening start).Holds (begun start) := by
  cases start with
  | none => exact holds_empty
  | some s =>
    refine ⟨?_, rfl, rfl⟩
    intro count
    rfl

mutual

theorem Holds.perform {d : Draft} {pieces : List Piece} (h : d.Holds pieces) (step : Step) :
    (step.perform d).Holds (pieces ++ step.pieces) := by
  cases step with
  | push s => exact h.push s
  | bind v => exact h.bind v
  | bindList vs => exact h.bindList vs
  | identifier i => exact h.write i.sql
  | table t => exact h.write t.sql
  | fragment f => exact h.push f.text
  | splice start steps => exact h.append ((holds_opening start).performAll steps)

theorem Holds.performAll {d : Draft} {pieces : List Piece} (h : d.Holds pieces)
    (steps : List Step) : (performAll d steps).Holds (pieces ++ written steps) := by
  cases steps with
  | nil =>
    rw [written, List.append_nil]
    exact h
  | cons step steps =>
    rw [written, ← List.append_assoc]
    exact (h.perform step).performAll steps

end

/-- The steps with which a draft begins. -/
def Step.beginning : Option String → List Step
  | none => []
  | some s => [.push s]

lemma written_append (steps more : List Step) :
    written (steps ++ more) = written steps ++ written more := by
  induction steps with
  | nil => rfl
  | cons step steps ih => rw [List.cons_append, written, written, ih, List.append_assoc]

lemma written_beginning (start : Option String) : written (Step.beginning start) = begun start := by
  cases start <;> rfl

lemma holds_make (start : Option String) (steps : List Step) :
    (make start steps).Holds (begun start ++ written steps) :=
  (holds_opening start).performAll steps

lemma Holds.statement_eq (h : d.Holds pieces) :
    d.statement = ⟨Template.numbered pieces, pieces.filterMap Piece.value?⟩ := by
  have hsql : d.sql = Template.numbered pieces := by
    rw [← Template.renderFrom_eq_numbered]
    exact h.render 0
  rw [Draft.statement, hsql, h.values]

/-- The step that writes a piece. -/
def Step.ofPiece : Piece → Step
  | .text s => .push s
  | .slot v => .bind v

/-- A template has the statement of the draft that its pieces write. -/
theorem statement_template (t : Template) :
    (make none (t.pieces.map Step.ofPiece)).statement = t.statement := by
  have hpieces : written (t.pieces.map Step.ofPiece) = t.pieces := by
    induction t.pieces with
    | nil => rfl
    | cons piece pieces ih =>
      rw [List.map_cons, written, ih]
      cases piece <;> rfl
  have hmade := (holds_make none (t.pieces.map Step.ofPiece)).statement_eq
  rw [hpieces, begun, List.nil_append, ← Template.renderFrom_eq_numbered] at hmade
  exact hmade

/-- A draft has as many slots as values, and the slots have the numbers of the values in what was
written, however the steps are nested. Taking in a draft is the same as writing its steps, so that
it does not matter in which order drafts are put together, and an empty one changes nothing. -/
theorem make_renders (start : Option String) (steps : List Step) :
    let d := make start steps
    let pieces := begun start ++ written steps
    d.parts.count .slot = d.count ∧ d.statement.params.length = d.count ∧
    d.statement.sql = Template.numbered pieces ∧
    d.statement.params = pieces.filterMap Piece.value? ∧
    (d.isEmpty = true ↔ d.statement.sql = "") ∧
    (∀ other more, (d.append (make other more)).statement =
      (performAll d (Step.beginning other ++ more)).statement) ∧
    (∀ second more third rest,
      ((d.append (make second more)).append (make third rest)).statement =
        (d.append ((make second more).append (make third rest))).statement) ∧
    (empty.append d).statement = d.statement ∧ (d.append empty).statement = d.statement ∧
    ((ofText "").append d).statement = d.statement ∧
    (d.append (ofText "")).statement = d.statement := by
  intro d pieces
  have hd : d.Holds pieces := holds_make start steps
  have hstatement := hd.statement_eq
  have hunit {unit : Draft} (h : unit.Holds []) :
      (unit.append d).statement = d.statement ∧ (d.append unit).statement = d.statement := by
    have hbehind := hd.append h
    rw [List.append_nil] at hbehind
    rw [(h.append hd).statement_eq, hbehind.statement_eq, hstatement]
    exact ⟨rfl, rfl⟩
  refine ⟨?_, rfl, ?_, ?_, d.isEmpty_iff, ?_, ?_, (hunit holds_empty).1, (hunit holds_empty).2,
    (hunit holds_blank).1, (hunit holds_blank).2⟩
  · rw [hd.slots, Draft.count, hd.values]
  · rw [hstatement]
  · rw [hstatement]
  · intro other more
    have hspliced := hd.append (holds_make other more)
    have hinline := hd.performAll (Step.beginning other ++ more)
    rw [written_append, written_beginning] at hinline
    rw [hspliced.statement_eq, hinline.statement_eq]
  · intro second more third rest
    have hsecond := holds_make second more
    have hthird := holds_make third rest
    have hleft := (hd.append hsecond).append hthird
    have hright := hd.append (hsecond.append hthird)
    rw [List.append_assoc] at hleft
    rw [hleft.statement_eq, hright.statement_eq]

end Draft
end TableAccess
