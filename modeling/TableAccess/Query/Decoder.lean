import TableAccess.Query.Basic

/-!
# Queries from JSON

A query or criteria as a JSON object with a member for each part. Parts that are left out keep
their default, and only the table of a query must be given.
-/

namespace TableAccess

open Decoding

/-- Reads predicates: a member for each, its key ending in the operator. -/
def Filter.ofDocument (d : Document) : Decoded Filter :=
  (pairs Value.ofDocument d).map Filter.ofPairs

def MemberList.components : List (Component MemberList) :=
  [.needed "column" string fun column m => { m with column },
    .needed "values" (list Value.ofDocument) fun values m => { m with values }]

def MemberList.ofDocument (origin : Origin) : Document → Decoded MemberList :=
  structured "InList" MemberList.components origin ⟨"", []⟩

def Wildcard.names : List (String × Wildcard) :=
  [("both", both), ("before", before), ("after", after), ("none", none)]

def TextMatch.components : List (Component TextMatch) :=
  [.needed "column" string fun column t => { t with column },
    .needed "pattern" string fun text t => { t with text },
    .optional "side" (named Wildcard.names .value) fun side t => { t with side }]

/-- Reads a LIKE term that stands in a value read as a whole. -/
def TextMatch.ofDocument : Document → Decoded TextMatch :=
  structured "LikeTerm" TextMatch.components .value ⟨"", "", .both⟩

/-- LIKE terms as a list, or as an object with a text for each column. -/
def TextMatch.form (d : Document) : Option (List TextMatch) :=
  match list TextMatch.ofDocument d with
  | .ok terms => some terms
  | .error _ =>
    match pairs string d with
    | .ok texts => some (texts.map fun (column, text) => .anywhere column text)
    | .error _ => none

def Join.Kind.ofDocument (d : Document) : Decoded Join.Kind := do
  match parse (← string d) with
  | .ok kind => return kind
  | .error cause => throw (.refused ("Validation error: " ++ cause.message))

def Join.components : List (Component Join) :=
  [.needed "joinTable" string fun table j => { j with table },
    .needed "joinOn" string fun condition j => { j with condition },
    .optional "joinType" Join.Kind.ofDocument fun kind j => { j with kind }]

def Join.ofDocument (origin : Origin) : Document → Decoded Join :=
  structured "Join" Join.components origin ⟨"", "", .plain⟩

def Query.Shape.names : List (String × Query.Shape) :=
  [("all", all), ("single", single)]

/-- One expression or a list of them. -/
def expressionForm : Document → Option (List String)
  | .string s => some [s]
  | d => (list string d).toOption

namespace Query

def components (origin : Origin) : List (Component Query) :=
  [.optional "columns" (anyForm expressionForm) fun columns q => { q with columns },
    .needed "table" string fun table q => { q with table },
    .optional "joins" (list (Join.ofDocument origin)) fun joins q => { q with joins },
    .optional "filter" Filter.ofDocument fun filter q => { q with filter },
    .optional "orFilter" Filter.ofDocument fun orFilter q => { q with orFilter },
    .optional "whereIn" (list (MemberList.ofDocument origin)) fun among q => { q with among },
    .optional "whereNotIn" (list (MemberList.ofDocument origin))
      fun notAmong q => { q with notAmong },
    .optional "like" (anyForm TextMatch.form) fun like q => { q with like },
    .optional "orLike" (anyForm TextMatch.form) fun orLike q => { q with orLike },
    .optional "groupBy" (anyForm expressionForm) fun groupBy q => { q with groupBy },
    .optional "orHaving" Filter.ofDocument fun orHaving q => { q with orHaving },
    .optional "orderBy" (anyForm expressionForm) fun orderBy q => { q with orderBy },
    .optional "limit" (optional integer) fun limit q => { q with limit },
    .optional "offset" (optional integer) fun offset q => { q with offset },
    .optional "resultShape" (named Query.Shape.names origin) fun shape q => { q with shape }]

def ofDocument (origin : Origin) : Document → Decoded Query :=
  structured "QuerySpec" (components origin) origin (.of "")

def ofJson (j : Json) : Decoded Query :=
  ofDocument .value (.ofJson j)

def parse (cs : List Char) : Decoded Query :=
  alone (ofDocument .text) (Document.parse cs)

end Query

namespace Criteria

def components (origin : Origin) : List (Component Criteria) :=
  [.optional "filter" Filter.ofDocument fun filter c => { c with filter },
    .optional "whereIn" (list (MemberList.ofDocument origin)) fun among c => { c with among }]

def ofDocument (origin : Origin) : Document → Decoded Criteria :=
  structured "FilterSpec" (components origin) origin {}

def ofJson (j : Json) : Decoded Criteria :=
  ofDocument .value (.ofJson j)

def parse (cs : List Char) : Decoded Criteria :=
  alone (ofDocument .text) (Document.parse cs)

end Criteria
end TableAccess
