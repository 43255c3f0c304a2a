import TableAccess.Refusal

/-!
# Identifiers

An identifier names a schema, a table or a column: parts between dots, each plain or quoted.
`Identifier.parse` reads one and `Identifier.sql` writes it back.
-/

namespace TableAccess

namespace Identifier

/-- One part of an identifier; the name of a quoted part stands without its quotes. -/
inductive Part where
  | plain (name : String)
  | quoted (name : String)
  deriving DecidableEq, Repr

def Part.name : Part → String
  | .plain name | .quoted name => name

/-- A part as SQL: the quotes inside a quoted name are doubled. -/
def Part.sql : Part → List Char
  | .plain name => name.toList
  | .quoted name =>
    '"' :: name.toList.flatMap (fun c => if c = '"' then ['"', '"'] else [c]) ++ ['"']

end Identifier

/-- A name of one or more parts, the outermost first. -/
structure Identifier where
  parts : List Identifier.Part
  deriving DecidableEq, Repr

namespace Identifier

/-- The parts as SQL with dots between them. -/
def sqlOf (parts : List Part) : List Char :=
  ['.'].intercalate (parts.map Part.sql)

def sql (i : Identifier) : String :=
  String.ofList (sqlOf i.parts)

instance : ToString Identifier := ⟨sql⟩

/-- The innermost name. -/
def name (i : Identifier) : String :=
  (i.parts.getLast?.map Part.name).getD ""

def beginsName (c : Char) : Bool :=
  c == '_' || c.isAlpha

def continuesName (c : Char) : Bool :=
  c == '_' || c == '$' || c.isAlphanum

/-- Where the reader stands. -/
inductive Place where
  /-- Before a part. -/
  | before
  /-- Inside a plain part. -/
  | plain (name : List Char)
  /-- Inside a quoted part. -/
  | quoted (name : List Char)
  /-- Behind a quote inside a quoted part, which ends the part unless another one follows. -/
  | closing (name : List Char)

/-- Reads the rest of the identifier `text`, whose finished parts are `parts`. -/
def read (text : String) (parts : List Part) : Place → List Char → Except Refusal (List Part)
  | .before, [] => .error (.trailingDot text)
  | .before, c :: cs =>
    if c = '"' then read text parts (.quoted []) cs
    else if c = '.' then .error .emptySegment
    else if beginsName c then read text parts (.plain [c]) cs
    else .error (.invalidCharacter c)
  | .plain name, [] => .ok (parts ++ [.plain (String.ofList name)])
  | .plain name, c :: cs =>
    if c = '.' then read text (parts ++ [.plain (String.ofList name)]) .before cs
    else if continuesName c then read text parts (.plain (name ++ [c])) cs
    else .error (.invalidCharacter c)
  | .quoted _, [] => .error .unclosedQuote
  | .quoted name, c :: cs =>
    if c = '"' then read text parts (.closing name) cs
    else read text parts (.quoted (name ++ [c])) cs
  | .closing name, [] =>
    if name.isEmpty then .error .emptyQuote else .ok (parts ++ [.quoted (String.ofList name)])
  | .closing name, c :: cs =>
    if c = '"' then read text parts (.quoted (name ++ [c])) cs
    else if name.isEmpty then .error .emptyQuote
    else if c = '.' then read text (parts ++ [.quoted (String.ofList name)]) .before cs
    else .error (.unexpectedCharacter text c)

def parse (s : String) : Except Refusal Identifier :=
  if s.toList.isEmpty then .error .emptyIdentifier
  else if s.toList.contains '\x00' then .error .nulInIdentifier
  else (read s [] .before s.toList).map Identifier.mk

end Identifier
end TableAccess
