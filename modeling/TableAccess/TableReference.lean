import TableAccess.Identifier
import TableAccess.Text.Blank

/-!
# Table references

The table of a FROM or JOIN with an optional alias: `users`, `users u` or `users AS u`.
-/

namespace TableAccess

/-- A table and the name it goes by in the rest of the statement. -/
structure TableReference where
  table : Identifier
  aliasName : Option Identifier
  deriving DecidableEq, Repr

namespace TableReference

/-- The fields of a text whose first field has already begun with `word`; blanks between double
quotes do not separate. -/
def fieldsFrom (quoted : Bool) (word : List Char) : List Char → List (List Char)
  | [] => Text.flush word []
  | c :: cs =>
    if Text.isBlank c && !quoted then Text.flush word (fieldsFrom quoted [] cs)
    else fieldsFrom (quoted != (c == '"')) (word ++ [c]) cs

/-- The fields between the blanks outside double quotes. -/
def fields (cs : List Char) : List (List Char) :=
  fieldsFrom false [] cs

/-- The table and alias that fields stand for, before either is read. -/
def ofFields? : List (List Char) → Option (List Char × Option (List Char))
  | [table] => some (table, none)
  | [table, name] => some (table, some name)
  | [table, word, name] => if Text.lower word = ['a', 's'] then some (table, some name) else none
  | _ => none

/-- Reads an alias, which has a single part. -/
def parseAlias (s : String) : Except Refusal Identifier := do
  let name ← Identifier.parse s
  if name.parts.length = 1 then return name else throw (.qualifiedAlias name.sql)

def parse (s : String) : Except Refusal TableReference :=
  match ofFields? (fields s.toList) with
  | none => .error (.malformedTable s)
  | some (table, none) => do
    return ⟨← Identifier.parse (String.ofList table), none⟩
  | some (table, some name) => do
    let aliasName ← parseAlias (String.ofList name)
    return ⟨← Identifier.parse (String.ofList table), some aliasName⟩

def sql (t : TableReference) : String :=
  match t.aliasName with
  | none => t.table.sql
  | some aliasName => t.table.sql ++ " " ++ aliasName.sql

end TableReference
end TableAccess
