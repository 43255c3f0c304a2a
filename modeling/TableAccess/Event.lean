import TableAccess.Error
import TableAccess.Settings

/-!
# Events

What a call logs, and `Traced`, the outcome of a call together with its events. Events that
precede a failure are kept.
-/

namespace TableAccess

/-- Something that is logged. -/
inductive Event where
  /-- An alternative of the given kind opens the WHERE clause. -/
  | openingOr (kind : String)
  /-- The caller has given a value for the identifier column. -/
  | identifierGiven (table column : String)
  /-- A write without criteria has not been sent. -/
  | writeSkipped (verb table : String)
  /-- A statement is about to run. -/
  | statement (level : Level) (operation : String) (params : Nat) (sql : String)
  deriving DecidableEq, Repr

namespace Event

def level : Event → Level
  | openingOr _ => .warn
  | identifierGiven .. => .debug
  | writeSkipped .. => .warn
  | statement level .. => level

def target : Event → String
  | statement .. => "tablegate.sql"
  | _ => "tablegate"

def fields : Event → List (String × String)
  | openingOr kind =>
    [("message", "OR term opens the WHERE clause; its connector is dropped"), ("kind", kind)]
  | identifierGiven table column =>
    [("message", "identifier value supplied by caller; not generating one"),
      ("table", table), ("column", column)]
  | writeSkipped verb table =>
    [("message", s!"{verb} without a filter skipped"), ("table", table)]
  | statement _ operation params sql =>
    [("op", operation), ("param_count", toString params), ("sql", sql)]

end Event

/-- The outcome of a call and the events up to it. -/
structure Traced (α : Type) where
  events : List Event
  outcome : Except Error α

namespace Traced

variable {α β : Type}

def of (outcome : Except Error α) : Traced α :=
  ⟨[], outcome⟩

/-- Success unless the input was refused. -/
def checked (outcome : Except Refusal α) : Traced α :=
  ⟨[], outcome.mapError .invalid⟩

def pure (a : α) : Traced α :=
  ⟨[], .ok a⟩

/-- Goes on with the result of a call, if it has one. -/
def bind (t : Traced α) (f : α → Traced β) : Traced β :=
  match t.outcome with
  | .ok a => ⟨t.events ++ (f a).events, (f a).outcome⟩
  | .error e => ⟨t.events, .error e⟩

instance : Monad Traced where
  pure := Traced.pure
  bind := Traced.bind

def log (event : Event) : Traced Unit :=
  ⟨[event], .ok ()⟩

def refuse (cause : Refusal) : Traced α :=
  ⟨[], .error (.invalid cause)⟩

end Traced
end TableAccess
