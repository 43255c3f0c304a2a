/-!
# Kinds of clauses

The clauses of a statement stand in the order of their kinds, whatever order they are found in.
Kinds that share a keyword form a section: the WHERE section is one chain of terms, each of which
brings the AND or OR in front of it.
-/

namespace TableAccess

/-- What a clause contributes to a statement. -/
inductive Clause.Kind where
  | column
  | table
  | join
  | filter
  | orFilter
  | among
  | notAmong
  | like
  | orLike
  | group
  | orHaving
  | order
  | paging
  deriving DecidableEq, Repr

/-- A part of a statement that a keyword starts. -/
inductive Section where
  | columns
  | table
  | joins
  | condition
  | groups
  | having
  | order
  | paging
  deriving DecidableEq, Repr

/-- How a term is attached to those before it. -/
inductive Junction where
  | and
  | or
  deriving DecidableEq, Repr

namespace Clause.Kind

/-- The place of a kind among all kinds, which are listed in the order of a statement. -/
def rank (kind : Clause.Kind) : Nat :=
  kind.ctorIdx

/-- How the clauses of a kind are attached. -/
def junction : Clause.Kind → Junction
  | orFilter | orLike | orHaving => .or
  | _ => .and

/-- How messages name the terms of the WHERE clause. -/
def name : Clause.Kind → String
  | column => "Select"
  | table => "From"
  | join => "Join"
  | filter => "Where"
  | orFilter => "OrWhere"
  | among => "WhereIn"
  | notAmong => "WhereNotIn"
  | like => "Like"
  | orLike => "OrLike"
  | group => "GroupBy"
  | orHaving => "OrHaving"
  | order => "OrderBy"
  | paging => "Limit"

end Clause.Kind

namespace Section

def of : Clause.Kind → Section
  | .column => columns
  | .table => table
  | .join => joins
  | .filter | .orFilter | .among | .notAmong | .like | .orLike => condition
  | .group => groups
  | .orHaving => having
  | .order => order
  | .paging => paging

def start : Section → String
  | columns => "SELECT "
  | table => "FROM "
  | condition => "WHERE "
  | groups => "GROUP BY "
  | having => "HAVING "
  | order => "ORDER BY "
  | joins | paging => ""

/-- The text between two clauses of a section, of which the second brings the junction. -/
def between : Section → Junction → String
  | condition, .and | having, .and => " AND "
  | condition, .or | having, .or => " OR "
  | joins, _ | paging, _ => " "
  | _, _ => ", "

end Section
end TableAccess
