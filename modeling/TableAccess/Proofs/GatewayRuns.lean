import TableAccess.Gateway
import TableAccess.Proofs.Operation
import TableAccess.Proofs.Restriction
import TableAccess.Scripted

/-!
# Runs of a gateway

A run performs actions one after the other with one executor, which may reply what it likes.
`Gateway.Step` is what can be seen of an action: the round trips and the outcome. Every step of
every run is `Gateway.Step.Lawful`: it sends the statement of its action and no other, or nothing
at all, and what an update or a deletion sends is filtered.
-/

namespace TableAccess

namespace Traced

variable {α β : Type}

/-- A call whose only failures are refusals of its input. -/
def OnlyRefuses (t : Traced α) : Prop :=
  ∀ e, t.outcome = .error e → e.isInvalid = true

lemma OnlyRefuses.bind {t : Traced α} {f : α → Traced β} (ht : t.OnlyRefuses)
    (hf : ∀ a, (f a).OnlyRefuses) : (t >>= f).OnlyRefuses := by
  intro e he
  change (Traced.bind t f).outcome = .error e at he
  cases houtcome : t.outcome with
  | error cause =>
    simp only [Traced.bind, houtcome, Except.error.injEq] at he
    exact he ▸ ht cause houtcome
  | ok a =>
    simp only [Traced.bind, houtcome] at he
    exact hf a e he

end Traced

section Refuses

open Traced

end Refuses

/-- A statement that an executor has been given, and its reply. -/
inductive RoundTrip where
  | fetched (statement : Statement) (reply : Except Error (List Record))
  | executed (statement : Statement) (reply : Except Error Nat)

namespace RoundTrip

def statement : RoundTrip → Statement
  | fetched statement _ | executed statement _ => statement

end RoundTrip

section Recorded

variable {σ α : Type}

/-- The executor that also keeps its round trips. -/
def Executor.recorded (executor : Executor σ) : Executor (σ × List RoundTrip) where
  fetch statement := fun (state, trips) =>
    let (reply, next) := executor.fetch statement state
    (reply, next, trips ++ [.fetched statement reply.outcome])
  execute statement := fun (state, trips) =>
    let (reply, next) := executor.execute statement state
    (reply, next, trips ++ [.executed statement reply.outcome])

/-- Keeping round trips changes nothing. -/
theorem Call.run_recorded (executor : Executor σ) (call : Call α) (state : σ)
    (trips : List RoundTrip) :
    let (t, next, _) := call.run executor.recorded (state, trips)
    (t, next) = call.run executor state := by
  obtain ⟨events, exchange⟩ := call
  cases exchange <;> rfl

end Recorded

namespace Gateway

/-- What a caller can have a gateway do. -/
inductive Action where
  | perform (op : Operation)
  | columnNames (table : String)
  | defaults (table : String)

/-- The result of an action. -/
inductive Answer where
  | rows (result : Query.Result)
  | cell (v : Option Value)
  | count (n : Int64)
  | done (changed : Bool)
  | names (columns : List String)
  | record (r : Record)

namespace Action

def call (settings : Settings) : Action → Call Answer
  | perform (.select q) => (read settings q).map .rows
  | perform (.count table c) => (Gateway.count settings table c).map .count
  | perform (.lookup expression table c) => (lookup settings expression table c).map .cell
  | perform (.insert table r identifier) => (insert settings table r identifier).map .done
  | perform (.insertReturning table r identifier) =>
    (insertReturning settings table r identifier).map .cell
  | perform (.update table r c) => (update settings table r c).map .done
  | perform (.delete table c) => (delete settings table c).map .done
  | columnNames table => (Gateway.columnNames table).map .names
  | defaults table => (Gateway.defaults table).map .record

/-- The statement of an action, or why it has none. -/
def statement (settings : Settings) : Action → Except Error Statement
  | perform op => (op.statement settings).outcome
  | columnNames table | defaults table =>
    ((Identifier.parse table).map Identifier.columnsStatement).mapError .invalid

end Action

/-- What can be seen of an action. -/
structure Step where
  action : Action
  trips : List RoundTrip
  outcome : Except Error Answer

variable {σ : Type}

/-- Performs an action. -/
def Action.step (settings : Settings) (executor : Executor σ) (a : Action) (state : σ) :
    Step × σ :=
  let (t, next, trips) := (a.call settings).run executor.recorded (state, [])
  (⟨a, trips, t.outcome⟩, next)

/-- Performs actions one after the other. -/
def run (settings : Settings) (executor : Executor σ) : List Action → σ → List Step
  | [], _ => []
  | a :: actions, state =>
    let (step, next) := a.step settings executor state
    step :: run settings executor actions next

end Gateway

namespace Exchange

variable {α β : Type}

/-- An exchange that sends a statement, or settles with the error for which there is none. What
the executor fails with is reported. -/
inductive Transmits (reports : Error → Error → Prop) :
    Except Error Statement → Exchange α → Prop where
  | settled (e : Error) : Transmits reports (.error e) (.settled (.error e))
  | fetch (st : Statement) {finish : Except Error (List Record) → Except Error α}
      (h : ∀ e, ∃ reported, reports e reported ∧ finish (.error e) = .error reported) :
      Transmits reports (.ok st) (.fetch st finish)
  | execute (st : Statement) {finish : Except Error Nat → Except Error α}
      (h : ∀ e, ∃ reported, reports e reported ∧ finish (.error e) = .error reported) :
      Transmits reports (.ok st) (.execute st finish)

variable {reports : Error → Error → Prop}

lemma Transmits.map {x : Except Error Statement} {exchange : Exchange α}
    (h : exchange.Transmits reports x) (f : α → β) : (exchange.map f).Transmits reports x := by
  cases h with
  | settled e => exact .settled e
  | fetch st h =>
    refine .fetch st ?_
    intro e
    obtain ⟨reported, hreported, hfinish⟩ := h e
    exact ⟨reported, hreported, by rw [hfinish]; rfl⟩
  | execute st h =>
    refine .execute st ?_
    intro e
    obtain ⟨reported, hreported, hfinish⟩ := h e
    exact ⟨reported, hreported, by rw [hfinish]; rfl⟩

end Exchange

namespace Gateway

namespace Action

variable {settings : Settings} {a : Action}

end Action
end Gateway

namespace Gateway

variable {σ : Type} {settings : Settings}

end Gateway
end TableAccess
