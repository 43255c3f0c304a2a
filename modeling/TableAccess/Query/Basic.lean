import TableAccess.Query.Join
import TableAccess.Query.Predicate
import TableAccess.Query.TextMatch

/-!
# Queries

A `Query` describes a read of one table and those joined to it. Names and expressions are kept
as the caller wrote them; they are checked when a statement is made of the query. `Criteria` is
the part of it that selects rows, which other statements share.
-/

namespace TableAccess

/-- A column and the values among which its own must be, or must not be. -/
structure MemberList where
  column : String
  values : List Value

/-- How much of a result a read returns. -/
inductive Query.Shape where
  | all
  /-- The first row, if there is one. -/
  | single
  deriving DecidableEq, Repr

/-- A read of a table. -/
structure Query where
  /-- The expressions to read; none means every column. -/
  columns : List String := []
  table : String
  joins : List Join := []
  /-- Predicates that must all hold. -/
  filter : Filter := []
  /-- Predicates each of which is an alternative to what stands before it. -/
  orFilter : Filter := []
  among : List MemberList := []
  notAmong : List MemberList := []
  /-- Texts to be found anywhere, whatever side a term gives. -/
  like : List TextMatch := []
  orLike : List TextMatch := []
  groupBy : List String := []
  /-- Alternatives for groups. -/
  orHaving : Filter := []
  orderBy : List String := []
  limit : Option Int64 := none
  offset : Option Int64 := none
  shape : Query.Shape := .all

/-- What selects the rows of a count, a lookup, an update or a deletion. -/
structure Criteria where
  filter : Filter := []
  among : List MemberList := []

namespace Criteria

def isEmpty (c : Criteria) : Bool :=
  c.filter.isEmpty && c.among.isEmpty

def whereKey (c : Criteria) (key : String) (value : Value) : Criteria :=
  { c with filter := c.filter.andKey key value }

def whereAmong (c : Criteria) (column : String) (values : List Value) : Criteria :=
  { c with among := c.among ++ [⟨column, values⟩] }

end Criteria

namespace Query

/-- Every column of every row of a table. -/
def of (table : String) : Query :=
  { table }

def select (q : Query) (columns : List String) : Query :=
  { q with columns }

def join (q : Query) (kind : Join.Kind) (table condition : String) : Query :=
  { q with joins := q.joins ++ [⟨table, condition, kind⟩] }

def whereKey (q : Query) (key : String) (value : Value) : Query :=
  { q with filter := q.filter.andKey key value }

/-- Allows the predicate of a key as an alternative. -/
def orWhereKey (q : Query) (key : String) (value : Value) : Query :=
  { q with orFilter := q.orFilter.andKey key value }

def whereAmong (q : Query) (column : String) (values : List Value) : Query :=
  { q with among := q.among ++ [⟨column, values⟩] }

def whereNotAmong (q : Query) (column : String) (values : List Value) : Query :=
  { q with notAmong := q.notAmong ++ [⟨column, values⟩] }

def whereLike (q : Query) (column text : String) : Query :=
  { q with like := q.like ++ [.anywhere column text] }

def orWhereLike (q : Query) (term : TextMatch) : Query :=
  { q with orLike := q.orLike ++ [term] }

def groupedBy (q : Query) (expression : String) : Query :=
  { q with groupBy := q.groupBy ++ [expression] }

/-- Allows groups with the predicate of a key. -/
def orHavingKey (q : Query) (key : String) (value : Value) : Query :=
  { q with orHaving := q.orHaving.andKey key value }

def orderedBy (q : Query) (term : String) : Query :=
  { q with orderBy := q.orderBy ++ [term] }

def ascending (q : Query) (column : String) : Query :=
  q.orderedBy (column ++ " ASC")

def descending (q : Query) (column : String) : Query :=
  q.orderedBy (column ++ " DESC")

def limitedTo (q : Query) (n : Int64) : Query :=
  { q with limit := some n }

def startingAt (q : Query) (n : Int64) : Query :=
  { q with offset := some n }

def shaped (q : Query) (shape : Query.Shape) : Query :=
  { q with shape }

end Query
end TableAccess
