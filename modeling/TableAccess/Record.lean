import TableAccess.Value.Basic

/-!
# Records

A record maps column names to values and lists its columns in the order in which they came to
be. A column that is set again keeps its place.
-/

namespace TableAccess

/-- Values under column names. -/
structure Record where
  entries : Entries Value

namespace Record

def empty : Record :=
  ⟨[]⟩

/-- Sets a column. -/
def insert (r : Record) (column : String) (v : Value) : Record :=
  ⟨r.entries.set column v⟩

/-- The record that pairs make when their columns are set one after the other. -/
def ofList (pairs : List (String × Value)) : Record :=
  ⟨Entries.ofList pairs⟩

/-- The record in which every given column is NULL. -/
def nulls (columns : List String) : Record :=
  ofList (columns.map fun column => (column, .null))

def get? (r : Record) (column : String) : Option Value :=
  r.entries.get? column

def contains (r : Record) (column : String) : Bool :=
  (r.get? column).isSome

/-- Takes a column out and gives its value back. -/
def remove (r : Record) (column : String) : Option Value × Record :=
  let (removed, others) := r.entries.remove column
  (removed, ⟨others⟩)

def columns (r : Record) : List String :=
  r.entries.keys

def values (r : Record) : List Value :=
  r.entries.map Prod.snd

def size (r : Record) : Nat :=
  r.entries.length

def isEmpty (r : Record) : Bool :=
  r.entries.isEmpty

def first? (r : Record) : Option Value :=
  r.values.head?

def toJson (r : Record) : Json :=
  .object (r.entries.map fun (column, v) => (column, v.toJson))

/-- Columns and values are equal pair by pair, in order. -/
def sameEntries : Entries Value → Entries Value → Bool
  | [], [] => true
  | (c, v) :: rest, (d, w) :: others => c == d && v.same w && sameEntries rest others
  | _, _ => false

/-- Equality of records, where the order of the columns counts. -/
def same (r s : Record) : Bool :=
  sameEntries r.entries s.entries

theorem contains_iff (r : Record) (column : String) :
    r.contains column = true ↔ column ∈ r.columns :=
  Entries.get?_isSome_iff r.entries column

theorem get?_insert_self (r : Record) (column : String) (v : Value) :
    (r.insert column v).get? column = some v :=
  Entries.get?_set_self r.entries column v

theorem columns_insert (r : Record) (column : String) (v : Value) :
    (r.insert column v).columns =
      if column ∈ r.columns then r.columns else r.columns ++ [column] :=
  Entries.keys_set r.entries column v

end Record
end TableAccess
