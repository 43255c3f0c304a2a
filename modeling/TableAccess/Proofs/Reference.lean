import Mathlib.Tactic.Lemma
import TableAccess.Query.Basic
import TableAccess.Settings
import TableAccess.TableReference

/-!
# A reference for queries

`Query.written` writes a query from front to back and numbers the values as it meets them. It
knows neither clauses nor templates, has words, signs and patterns of its own, and checks nothing.
-/

namespace TableAccess

/-- Writing with the values that have been met so far. -/
abbrev Writing := StateM (List Value)

/-- The next placeholder, which stands for a value. -/
def Value.placed (v : Value) : Writing String := do
  modify (· ++ [v])
  return "$" ++ toString (← get).length

namespace Writing

variable {α β : Type}

lemma run_pure (a : α) (values : List Value) :
    (pure a : Writing α).run values = (a, values) := (rfl)

lemma run_bind (w : Writing α) (f : α → Writing β) (values : List Value) :
    (w >>= f).run values = (f (w.run values).1).run (w.run values).2 := (rfl)

lemma run_placed (v : Value) (values : List Value) :
    v.placed.run values = ("$" ++ toString (values.length + 1), values ++ [v]) := by
  change ("$" ++ toString (values ++ [v]).length, values ++ [v]) = _
  rw [List.length_append, List.length_singleton]

end Writing

namespace Reference

/-- A text without the blanks at its ends. -/
def trimmed (s : String) : String :=
  String.ofList (Text.trim s.toList)

/-- A table and its alias with one blank between them. -/
def normalized (s : String) : String :=
  match TableReference.parse s with
  | .ok ⟨table, none⟩ => table.sql
  | .ok ⟨table, some name⟩ => table.sql ++ " " ++ name.sql
  | .error _ => s

def sign : Comparison → String
  | .eq => "="
  | .ne => "!="
  | .gt => ">"
  | .ge => ">="
  | .lt => "<"
  | .le => "<="

def joining : Join.Kind → String
  | .plain => "JOIN"
  | .inner => "INNER JOIN"
  | .left => "LEFT JOIN"
  | .right => "RIGHT JOIN"
  | .full => "FULL OUTER JOIN"

def searching : LetterCase → String
  | .ignored => "ILIKE"
  | .respected => "LIKE"

/-- A text in which a backslash stands before whatever means something in a pattern. -/
def literally (s : String) : String :=
  String.ofList (s.toList.flatMap fun c => if c ∈ ['%', '_', '\\'] then ['\\', c] else [c])

/-- The pattern of a text with a percent sign at each side that is open. -/
def pattern : Wildcard → String → String
  | .both, s => "%" ++ literally s ++ "%"
  | .before, s => "%" ++ literally s
  | .after, s => literally s ++ "%"
  | .none, s => literally s

/-- Terms one behind the other, each but the first behind the text that attaches it. -/
def linked : List (String × String) → String
  | [] => ""
  | (_, t) :: rest => t ++ String.join (rest.map fun link => link.1 ++ link.2)

/-- Linked terms behind a keyword; nothing if there are none. -/
def headed (keyword : String) (links : List (String × String)) : String :=
  if links.isEmpty then "" else keyword ++ linked links

/-- A limit or an offset, which must be positive to count. -/
def paging (keyword : String) : Option Int64 → Writing String
  | none => return ""
  | some n => do
    if 0 < n then return " " ++ keyword ++ " " ++ (← (Value.int n).placed) else return ""

/-- A search for a pattern in a column. -/
def search (letterCase : LetterCase) (column pattern : String) : Writing String := do
  return trimmed column ++ " " ++ searching letterCase ++ " " ++ (← (Value.text pattern).placed)

end Reference

open Reference

/-- Writes a predicate. -/
def Predicate.written (p : Predicate) : Writing String := do
  match p.value with
  | .null => return trimmed p.column ++ if p.comparison = .eq then " IS NULL" else " IS NOT NULL"
  | v => return trimmed p.column ++ " " ++ sign p.comparison ++ " " ++ (← v.placed)

/-- Writes a list of values. -/
def MemberList.written (negated : Bool) (m : MemberList) : Writing String := do
  if m.values.isEmpty then return if negated then "1=1" else "1=0"
  else
    let slots ← m.values.mapM Value.placed
    return trimmed m.column ++ (if negated then " NOT IN (" else " IN (") ++
      linked (slots.map (", ", ·)) ++ ")"

/-- Writes a join. -/
def Join.written (j : Join) : String :=
  joining j.kind ++ " " ++ normalized j.table ++ " ON " ++ trimmed j.condition

namespace Query

/-- What stands in front of the conditions of a query. -/
def front (q : Query) : String :=
  "SELECT " ++
    (if q.columns.isEmpty then "*" else linked (q.columns.map fun s => (", ", trimmed s))) ++
    " FROM " ++ normalized q.table ++ String.join (q.joins.map (" " ++ ·.written))

/-- Writes what stands behind the conditions of a query. -/
def rest (q : Query) : Writing String := do
  let orHaving ← q.orHaving.mapM Predicate.written
  let limit ← paging "LIMIT" q.limit
  let offset ← paging "OFFSET" q.offset
  return headed " GROUP BY " (q.groupBy.map fun s => (", ", trimmed s)) ++
    headed " HAVING " (orHaving.map (" OR ", ·)) ++
    headed " ORDER BY " (q.orderBy.map fun s => (", ", trimmed s)) ++ limit ++ offset

/-- Writes a query. What is looked for may stand anywhere in a text, whatever side a term gives;
only the alternatives have sides. -/
def written (settings : Settings) (q : Query) : Writing String := do
  let filter ← q.filter.mapM Predicate.written
  let orFilter ← q.orFilter.mapM Predicate.written
  let among ← q.among.mapM (MemberList.written false)
  let notAmong ← q.notAmong.mapM (MemberList.written true)
  let like ← q.like.mapM fun t =>
    search settings.letterCase t.column ("%" ++ literally t.text ++ "%")
  let orLike ← q.orLike.mapM fun t => search settings.letterCase t.column (pattern t.side t.text)
  let rest ← q.rest
  let conditions := filter.map (" AND ", ·) ++ orFilter.map (" OR ", ·) ++
    (among ++ notAmong ++ like).map (" AND ", ·) ++ orLike.map (" OR ", ·)
  return q.front ++ headed " WHERE " conditions ++ rest

/-- The values of a query in the order in which they are met. -/
def values (q : Query) : List Value :=
  let compared (filter : Filter) := (filter.map Predicate.value).filter fun v => !v.isNull
  let given (n : Option Int64) := (n.toList.filter (0 < ·)).map Value.int
  compared q.filter ++ compared q.orFilter ++ q.among.flatMap MemberList.values ++
    q.notAmong.flatMap MemberList.values ++
    (q.like.map fun t => .text ("%" ++ literally t.text ++ "%")) ++
    (q.orLike.map fun t => .text (pattern t.side t.text)) ++ compared q.orHaving ++
    given q.limit ++ given q.offset

end Query
end TableAccess
