import TableAccess.Event
import TableAccess.Record
import TableAccess.Template

/-!
# Exchanges with an executor

A call either settles by itself or sends one statement and settles with the reply; `Exchange` has
no third form, so no call sends two. An `Executor` is whatever runs statements, with a state of
its own.
-/

namespace TableAccess

/-- What runs statements. -/
structure Executor (σ : Type) where
  /-- Runs a statement that returns rows. -/
  fetch : Statement → σ → Traced (List Record) × σ
  /-- Runs a statement and counts the rows that it affects. -/
  execute : Statement → σ → Traced Nat × σ

/-- What a call does once its statement, if any, is made. -/
inductive Exchange (α : Type) where
  | settled (outcome : Except Error α)
  | fetch (statement : Statement) (finish : Except Error (List Record) → Except Error α)
  | execute (statement : Statement) (finish : Except Error Nat → Except Error α)

/-- A call: the events of its preparation and its exchange. -/
structure Call (α : Type) where
  events : List Event
  exchange : Exchange α

namespace Exchange

variable {σ α β : Type}

/-- Puts a function behind the outcome of an exchange. -/
def map (f : α → β) : Exchange α → Exchange β
  | settled outcome => .settled (outcome.map f)
  | fetch statement finish => .fetch statement fun reply => (finish reply).map f
  | execute statement finish => .execute statement fun reply => (finish reply).map f

def sent? : Exchange α → Option Statement
  | settled _ => none
  | fetch statement _ | execute statement _ => some statement

def run (executor : Executor σ) (exchange : Exchange α) (state : σ) : Traced α × σ :=
  match exchange with
  | settled outcome => (⟨[], outcome⟩, state)
  | fetch statement finish =>
    let (reply, state) := executor.fetch statement state
    (⟨reply.events, finish reply.outcome⟩, state)
  | execute statement finish =>
    let (reply, state) := executor.execute statement state
    (⟨reply.events, finish reply.outcome⟩, state)

end Exchange

namespace Call

variable {σ α β : Type}

def map (f : α → β) (call : Call α) : Call β :=
  ⟨call.events, call.exchange.map f⟩

/-- A call that settles by itself. -/
def settled (t : Traced α) : Call α :=
  ⟨t.events, .settled t.outcome⟩

/-- Fetches rows with a statement, unless it cannot be made; a failure of the executor is the
failure of the call. -/
def fetching (statement : Traced Statement) (finish : List Record → Except Error α) : Call α where
  events := statement.events
  exchange :=
    match statement.outcome with
    | .ok statement => .fetch statement (·.bind finish)
    | .error e => .settled (.error e)

/-- Executes a statement, unless it cannot be made; a failure of the executor is the failure of
the call. -/
def executing (statement : Traced Statement) (finish : Nat → Except Error α) : Call α where
  events := statement.events
  exchange :=
    match statement.outcome with
    | .ok statement => .execute statement (·.bind finish)
    | .error e => .settled (.error e)

def run (executor : Executor σ) (call : Call α) (state : σ) : Traced α × σ :=
  let (t, state) := call.exchange.run executor state
  (⟨call.events ++ t.events, t.outcome⟩, state)

end Call
end TableAccess
