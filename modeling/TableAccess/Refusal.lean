import TableAccess.Text.Quoted

/-!
# Refused input

`Refusal` lists the causes for which a caller's input is refused before anything is sent to the
database; `Refusal.message` is the wording of each.
-/

namespace TableAccess

/-- Why a caller's input was refused. -/
inductive Refusal where
  | emptyFragment
  | forbiddenCharacter (fragment : String) (c : Char)
  | forbiddenSequence (fragment sequence : String)
  | unbalancedFragment (fragment : String)
  | emptyIdentifier
  | nulInIdentifier
  | trailingDot (identifier : String)
  | unexpectedCharacter (identifier : String) (c : Char)
  | invalidCharacter (c : Char)
  | emptySegment
  | unclosedQuote
  | emptyQuote
  | malformedTable (text : String)
  | qualifiedAlias (name : String)
  | unknownComparison (text : String)
  | unknownJoin (text : String)
  | operatorInKey (key word : String)
  | orderedNull (key comparison : String)
  | negativePaging (clause : String) (n : Int)
  | openingOr (kind : String)
  | nothingToSet (table : String)
  | missingCriteria (verb : String)
  /-- Input that the caller itself refused. -/
  | other (reason : String)
  deriving DecidableEq, Repr

namespace Refusal

def message : Refusal → String
  | emptyFragment => "SQL fragment cannot be empty"
  | forbiddenCharacter fragment c =>
    s!"SQL fragment '{fragment}' contains forbidden character " ++ Text.quotedChar c
  | forbiddenSequence fragment sequence =>
    s!"SQL fragment '{fragment}' contains forbidden sequence '{sequence}'"
  | unbalancedFragment fragment => s!"SQL fragment '{fragment}' has unbalanced parentheses"
  | emptyIdentifier => "Identifier cannot be empty"
  | nulInIdentifier => "Identifier cannot contain NUL character"
  | trailingDot identifier => s!"Trailing '.' in identifier '{identifier}'"
  | unexpectedCharacter identifier c => s!"Unexpected '{c}' in identifier '{identifier}'"
  | invalidCharacter c => s!"Invalid character in identifier: '{c}'"
  | emptySegment => "Empty identifier segment"
  | unclosedQuote => "Unclosed quoted identifier"
  | emptyQuote => "Empty quoted identifier"
  | malformedTable text => s!"Invalid table reference: '{text}'"
  | qualifiedAlias name => s!"Table alias cannot be qualified: '{name}'"
  | unknownComparison text => s!"Unknown comparison operator '{text}'"
  | unknownJoin text => s!"Unknown join type '{text}'"
  | operatorInKey key word =>
    s!"Filter key '{key}' ends with operator '{word}'; use a comparison suffix " ++
      "or a null value instead"
  | orderedNull key comparison => s!"Cannot compare '{key}' {comparison} NULL"
  | negativePaging clause n => s!"{clause} must not be negative, got {n}"
  | openingOr kind =>
    s!"{kind} term cannot open the WHERE clause; add an AND filter before it"
  | nothingToSet table => s!"UPDATE {table} has no values to set"
  | missingCriteria verb => s!"{verb} requires at least one filter predicate"
  | other reason => reason

end Refusal
end TableAccess
