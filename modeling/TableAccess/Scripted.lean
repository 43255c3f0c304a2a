import TableAccess.Exchange

/-!
# Scripted executors

An executor that gives the same reply to every statement and remembers what it was asked.
-/

namespace TableAccess

/-- What a scripted executor replies. -/
structure Script where
  rows : List Record := []
  affected : Nat := 0
  failure : Option Error := none

/-- What an executor is asked. -/
inductive Request where
  | fetch (statement : Statement)
  | execute (statement : Statement)

namespace Script

/-- The reply to a statement: the failure of the script, if it has one. -/
def reply {α : Type} (script : Script) (a : α) : Traced α :=
  match script.failure with
  | some e => ⟨[], .error e⟩
  | none => .pure a

/-- The executor of a script; its state lists the requests. -/
def executor (script : Script) : Executor (List Request) where
  fetch statement requests := (script.reply script.rows, requests ++ [.fetch statement])
  execute statement requests := (script.reply script.affected, requests ++ [.execute statement])

end Script
end TableAccess
