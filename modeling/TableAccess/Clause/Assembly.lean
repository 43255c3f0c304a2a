import TableAccess.Clause.Kind
import TableAccess.Event
import TableAccess.Template

/-!
# Assembling clauses

`Clause.arrange` puts clauses into the order of their kinds, and `Clause.writeFrom` writes them in
one pass: a clause that continues a section brings its junction, any other starts its own.
`Clause.assemble` does both and watches the term that opens the WHERE clause.
-/

namespace TableAccess

/-- A piece of a statement and what it contributes. -/
structure Clause where
  kind : Clause.Kind
  body : Template

namespace Clause

/-- Puts a clause in front of the first one whose kind does not come before its own. -/
def place (c : Clause) : List Clause → List Clause
  | [] => [c]
  | d :: ds => if c.kind.rank ≤ d.kind.rank then c :: d :: ds else d :: place c ds

/-- The clauses in the order of their kinds; those of one kind keep their order. -/
def arrange : List Clause → List Clause
  | [] => []
  | c :: cs => place c (arrange cs)

/-- What stands in front of a clause of a kind when `current` is the section before it. -/
def lead (current : Option Section) (kind : Clause.Kind) : String :=
  let s := Section.of kind
  match current with
  | none => s.start
  | some before => if before = s then s.between kind.junction else " " ++ s.start

/-- Writes clauses as they stand when `current` is the section before them. -/
def writeFrom (current : Option Section) : List Clause → Template
  | [] => .empty
  | c :: cs => .text (lead current c.kind) ++ c.body ++ writeFrom (some (Section.of c.kind)) cs

/-- A clause of the kind opens the WHERE clause with an OR that has nothing to attach to. -/
def dangles (current : Option Section) (kind : Clause.Kind) : Bool :=
  Section.of kind == .condition && kind.junction == .or && current != some .condition

/-- The kinds of the clauses that open the WHERE clause with an OR. -/
def danglingFrom (current : Option Section) : List Clause → List Clause.Kind
  | [] => []
  | c :: cs =>
    let rest := danglingFrom (some (Section.of c.kind)) cs
    if dangles current c.kind then c.kind :: rest else rest

/-- Writes clauses as one template, unless an alternative opens the WHERE clause and the settings
refuse that. -/
def assemble (settings : Settings) (clauses : List Clause) : Traced Template :=
  let arranged := arrange clauses
  match danglingFrom none arranged, settings.openingOr with
  | kind :: _, .refused => .refuse (.openingOr kind.name)
  | kinds, _ => ⟨kinds.map fun kind => .openingOr kind.name, .ok (writeFrom none arranged)⟩

end Clause
end TableAccess
