import TableAccess.Clause.Assembly
import TableAccess.Query.Basic

/-!
# Terms of statements

Each part of a query becomes a term of its own once its names and expressions have been checked.
Values only ever become slots.
-/

namespace TableAccess

def expressionTerm (s : String) : Except Refusal Template :=
  (Fragment.parse s).map Template.fragment

def tableTerm (s : String) : Except Refusal Template :=
  (TableReference.parse s).map Template.table

namespace Predicate

/-- Words of operators with which no key may end, since the operator follows it. -/
def operatorWords : List String :=
  ["IS", "NOT", "NULL", "LIKE", "ILIKE", "IN", "BETWEEN", "SIMILAR", "AND", "OR"]

/-- The last word of a column expression. -/
def lastWord (column : String) : List Char :=
  ((Text.words column.toList).getLast?).getD []

/-- The column expression ends in the word of an operator. -/
def endsInOperator (column : String) : Bool :=
  operatorWords.any fun word => Text.lower word.toList == Text.lower (lastWord column)

/-- A comparison of an expression with a value; NULL can only be equal or not. -/
def comparisonTerm (p : Predicate) (column : Fragment) : Except Refusal Template :=
  if p.value.isNull then
    match p.comparison with
    | .eq => .ok (.fragment column ++ .text " IS NULL")
    | .ne => .ok (.fragment column ++ .text " IS NOT NULL")
    | comparison => .error (.orderedNull p.column comparison.sql)
  else .ok (.fragment column ++ .text (" " ++ p.comparison.sql ++ " ") ++ .slot p.value)

def term (p : Predicate) : Except Refusal Template :=
  if endsInOperator p.column then
    .error (.operatorInKey p.column (String.ofList (lastWord p.column)))
  else (Fragment.parse p.column).bind p.comparisonTerm

end Predicate

namespace MemberList

def operator (negated : Bool) : String :=
  if negated then " NOT IN (" else " IN ("

/-- The term of a list; nothing is in an empty one. -/
def term (negated : Bool) (m : MemberList) : Except Refusal Template := do
  let column ← Fragment.parse m.column
  if m.values.isEmpty then return .text (if negated then "1=1" else "1=0")
  else return .fragment column ++ .text (operator negated) ++ .slots m.values ++ .text ")"

end MemberList

def TextMatch.term (letterCase : LetterCase) (t : TextMatch) : Except Refusal Template := do
  let column ← Fragment.parse t.column
  return .fragment column ++ .text (" " ++ letterCase.keyword ++ " ") ++ .slot (.text t.pattern)

def Join.term (j : Join) : Except Refusal Template := do
  let table ← TableReference.parse j.table
  let condition ← Fragment.parse j.condition
  return .text (j.kind.sql ++ " ") ++ .table table ++ .text " ON " ++ .fragment condition

/-- A limit or an offset; zero asks for nothing. -/
def pagingTerm (clause : String) : Option Int64 → Except Refusal (List Template)
  | none => .ok []
  | some n =>
    if n < 0 then .error (.negativePaging clause n.toInt)
    else if n = 0 then .ok []
    else .ok [.text (clause ++ " ") ++ .slot (.int n)]

def clausesOf {α : Type} (kind : Clause.Kind) (term : α → Except Refusal Template)
    (parts : List α) : Except Refusal (List Clause) :=
  parts.mapM fun part => (term part).map (Clause.mk kind)

def Criteria.clauses (c : Criteria) : Except Refusal (List Clause) := do
  let filter ← clausesOf .filter Predicate.term c.filter
  let among ← clausesOf .among (MemberList.term false) c.among
  return filter ++ among

namespace Query

def columnClauses (columns : List String) : Except Refusal (List Clause) :=
  if columns.isEmpty then .ok [⟨.column, .text "*"⟩] else clausesOf .column expressionTerm columns

/-- The clauses of a query, checked in the order in which its parts are listed. -/
def clauses (settings : Settings) (q : Query) : Except Refusal (List Clause) := do
  let columns ← columnClauses q.columns
  let table ← clausesOf .table tableTerm [q.table]
  let joins ← clausesOf .join Join.term q.joins
  let filter ← clausesOf .filter Predicate.term q.filter
  let orFilter ← clausesOf .orFilter Predicate.term q.orFilter
  let among ← clausesOf .among (MemberList.term false) q.among
  let notAmong ← clausesOf .notAmong (MemberList.term true) q.notAmong
  let like ← clausesOf .like
    (fun t => (TextMatch.anywhere t.column t.text).term settings.letterCase) q.like
  let orLike ← clausesOf .orLike (TextMatch.term settings.letterCase) q.orLike
  let groupBy ← clausesOf .group expressionTerm q.groupBy
  let orHaving ← clausesOf .orHaving Predicate.term q.orHaving
  let orderBy ← clausesOf .order expressionTerm q.orderBy
  let limit ← pagingTerm "LIMIT" q.limit
  let offset ← pagingTerm "OFFSET" q.offset
  return columns ++ table ++ joins ++ filter ++ orFilter ++ among ++ notAmong ++ like ++ orLike ++
    groupBy ++ orHaving ++ orderBy ++ (limit ++ offset).map (Clause.mk .paging)

end Query
end TableAccess
