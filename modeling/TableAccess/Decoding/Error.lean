import TableAccess.Json.Document
import TableAccess.Number.FloatText
import TableAccess.Text.Quoted

/-!
# Faults of JSON input

`DecodeError` lists the causes for which JSON is not the description of a query or a value;
`DecodeError.message` is the wording of each.
-/

namespace TableAccess

/-- Where a document comes from. Values that were read before have lost repeated keys, and what
they hold beyond the expected parts is counted; text is only read as far as it is needed. -/
inductive Origin where
  | value
  | text
  deriving DecidableEq, Repr

/-- Why a document is not what was expected. -/
inductive DecodeError where
  /-- The text is no JSON, or what was read of it has no value. -/
  | malformed
  | wrongType (found expected : String)
  | wrongValue (found expected : String)
  | wrongLength (length : Nat) (expected : String)
  | missingField (name : String)
  | duplicateField (name : String)
  | unknownVariant (name : String) (known : List String)
  /-- None of the forms that a field may have. -/
  | noVariant
  | integerTooLarge (n : Int)
  /-- What the text of a field says is refused. -/
  | refused (message : String)
  deriving DecidableEq, Repr

namespace DecodeError

/-- A name in a message. -/
def ticked (name : String) : String :=
  "`" ++ name ++ "`"

/-- The names that were possible. -/
def alternatives : List String → String
  | [] => "there are no variants"
  | [a] => "expected " ++ ticked a
  | [a, b] => "expected " ++ ticked a ++ " or " ++ ticked b
  | names => "expected one of " ++ ", ".intercalate (names.map ticked)

/-- The wording of a fault; text that is no JSON has none. -/
def message? : DecodeError → Option String
  | malformed => none
  | wrongType found expected => some s!"invalid type: {found}, expected {expected}"
  | wrongValue found expected => some s!"invalid value: {found}, expected {expected}"
  | wrongLength length expected => some s!"invalid length {length}, expected {expected}"
  | missingField name => some ("missing field " ++ ticked name)
  | duplicateField name => some ("duplicate field " ++ ticked name)
  | unknownVariant name known =>
    some ("unknown variant " ++ ticked name ++ ", " ++ alternatives known)
  | noVariant => some "data did not match any variant of untagged enum Repr"
  | integerTooLarge n => some s!"integer {n} does not fit in i64"
  | refused message => some message

end DecodeError

def Document.described : Document → String
  | null => "null"
  | bool b => "boolean " ++ DecodeError.ticked (toString b)
  | int n => "integer " ++ DecodeError.ticked (toString n)
  | float x => "floating point " ++ DecodeError.ticked (x.text .json)
  | string s => "string " ++ Text.quoted s
  | array .. => "sequence"
  | object .. => "map"
  | refused | broken => ""

abbrev Decoded (α : Type) := Except DecodeError α

/-- What was found is not of the expected type; where nothing can be found the text is
malformed. -/
def Document.mismatch {α : Type} (d : Document) (expected : String) : Decoded α :=
  match d with
  | refused | broken => .error .malformed
  | _ => .error (.wrongType d.described expected)

end TableAccess
