import Mathlib.Data.List.Basic
import Mathlib.Tactic.Lemma
import TableAccess.Template

/-!
# Rendering of templates

`Template.sqlFrom` is the text of a template behind a number of placeholders. The text of two
templates, one behind the other, is that of the first and that of the second behind as many more
placeholders as the first has values.
-/

namespace TableAccess.Template

/-- The text of a template that `count` placeholders precede. -/
def sqlFrom (count : Nat) (t : Template) : String :=
  renderFrom count t.pieces

lemma sql_eq_sqlFrom (t : Template) : t.sql = t.sqlFrom 0 := rfl

@[simp] lemma sql_statement (t : Template) : t.statement.sql = t.sql := rfl

@[simp] lemma params_statement (t : Template) : t.statement.params = t.params := rfl

attribute [simp] params_append

@[simp] lemma params_empty : empty.params = [] := rfl

@[simp] lemma params_text (s : String) : (text s).params = [] := rfl

@[simp] lemma params_slot (v : Value) : (slot v).params = [v] := rfl

@[simp] lemma params_fragment (f : Fragment) : (fragment f).params = [] := rfl

@[simp] lemma params_identifier (i : Identifier) : (identifier i).params = [] := rfl

@[simp] lemma params_table (t : TableReference) : (table t).params = [] := rfl

@[simp] lemma sqlFrom_empty (count : Nat) : empty.sqlFrom count = "" := rfl

@[simp] lemma sqlFrom_text (count : Nat) (s : String) : (text s).sqlFrom count = s := by
  simp [sqlFrom, text, renderFrom]

@[simp] lemma sqlFrom_slot (count : Nat) (v : Value) :
    (slot v).sqlFrom count = "$" ++ toString (count + 1) := by
  simp [sqlFrom, slot, renderFrom]

lemma renderFrom_append (count : Nat) (front rest : List Piece) :
    renderFrom count (front ++ rest) =
      renderFrom count front ++ renderFrom (count + (front.filterMap Piece.value?).length) rest := by
  induction front generalizing count with
  | nil => simp [renderFrom]
  | cons piece front ih =>
    cases piece with
    | text s =>
      simp [renderFrom, ih, List.filterMap_cons, Piece.value?, String.append_assoc]
    | slot v =>
      simp [renderFrom, ih, Piece.value?, String.append_assoc, Nat.add_assoc, Nat.add_comm 1]

@[simp] theorem sqlFrom_append (count : Nat) (t u : Template) :
    (t ++ u).sqlFrom count = t.sqlFrom count ++ u.sqlFrom (count + t.params.length) :=
  renderFrom_append count t.pieces u.pieces

lemma append_assoc (t u w : Template) : t ++ u ++ w = t ++ (u ++ w) := by
  change Template.mk _ = Template.mk _
  simp

@[simp] lemma empty_append (t : Template) : empty ++ t = t := rfl

@[simp] lemma append_empty (t : Template) : t ++ empty = t := by
  change Template.mk _ = _
  simp [empty]

end TableAccess.Template
