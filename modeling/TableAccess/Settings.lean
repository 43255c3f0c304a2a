import TableAccess.Error
import TableAccess.Fragment

/-!
# Settings

`Settings` says how a gateway writes statements and `ExecutionSettings` how they are run.
-/

namespace TableAccess

/-- The expression with which the database makes the identifier of a new row. -/
inductive IdentifierSource where
  /-- The function that PostgreSQL has had since its version 13. -/
  | builtIn
  /-- The function of the extension `uuid-ossp`. -/
  | extension
  /-- Thirty-two digits without dashes, for identifier columns of text. -/
  | compact
  /-- An expression of the caller, checked when a statement is made. -/
  | custom (expression : String)
  deriving DecidableEq, Repr

namespace IdentifierSource

def expression : IdentifierSource → Except Refusal String
  | builtIn => .ok "gen_random_uuid()"
  | extension => .ok "uuid_generate_v4()"
  | compact => .ok "replace(gen_random_uuid()::text, '-', '')"
  | custom expression => (Fragment.parse expression).map Fragment.text

end IdentifierSource

/-- Whether LIKE terms tell capital letters from small ones. -/
inductive LetterCase where
  | ignored
  | respected
  deriving DecidableEq, Repr

def LetterCase.keyword : LetterCase → String
  | ignored => "ILIKE"
  | respected => "LIKE"

/-- What happens when an alternative would open the WHERE clause, where its OR has nothing to
attach to. -/
inductive OpeningOr where
  /-- The OR is dropped and a warning is logged. -/
  | dropped
  /-- The query is refused. -/
  | refused
  deriving DecidableEq, Repr

/-- How a gateway writes statements. -/
structure Settings where
  identifierSource : IdentifierSource := .builtIn
  letterCase : LetterCase := .ignored
  openingOr : OpeningOr := .dropped
  deriving DecidableEq, Repr

/-- How much an event matters. -/
inductive Level where
  | error
  | warn
  | info
  | debug
  | trace
  deriving DecidableEq, Repr

def Level.name : Level → String
  | error => "ERROR"
  | warn => "WARN"
  | info => "INFO"
  | debug => "DEBUG"
  | trace => "TRACE"

/-- How statements are run. -/
structure ExecutionSettings where
  /-- How long a statement may take; without a limit it may take forever. -/
  timeout : Option Duration := none
  /-- The level of the event of each statement. -/
  level : Level := .debug
  /-- How many bytes of a statement are logged; without a limit all of it is. -/
  maxSql : Option Nat := some 200
  deriving DecidableEq, Repr

end TableAccess
