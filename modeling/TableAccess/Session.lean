import TableAccess.Column.Cell
import TableAccess.Column.Parameter
import TableAccess.Exchange
import TableAccess.Text.Clip

/-!
# Sessions

A session runs statements on a server: it prepares the statement, encodes its parameters by the
types that the server names, waits for the reply and reads it. `Session.converse` is that
conversation for one reply of the server, and says which failure comes first.
-/

namespace TableAccess

/-- An error that a server reports. -/
structure ServerError where
  code : String := "XX000"
  message : String := "boom"
  constraint : Option String := none
  deriving DecidableEq, Repr

/-- What a server does with a statement. -/
structure ServerReply where
  /-- The types of the parameters, in order. -/
  paramTypes : List ColumnType := []
  columns : List Column := []
  rows : List (List Cell) := []
  affected : Nat := 0
  error : Option ServerError := none
  /-- The error is reported when the statement is prepared. -/
  atPrepare : Bool := false
  /-- The server closes the connection once the parameters have been sent. -/
  closes : Bool := false
  /-- The server never answers. -/
  silent : Bool := false

/-- A statement that reached the server, with its parameters if they were sent. -/
structure Sent where
  sql : String
  params : Option (List Cell)
  deriving DecidableEq, Repr

/-- What has become of a connection. -/
inductive Connection where
  /-- The server answers. -/
  | ready
  /-- The connection has ended. -/
  | closed
  /-- The server never answered a statement, so that it reads none behind it. -/
  | blocked
  deriving DecidableEq, Repr

/-- A session on a server. -/
structure Session where
  connection : Connection := .ready
  /-- What has reached the server, in order. -/
  wire : List Sent := []

namespace ServerReply

/-- Some row has not one cell for each column. -/
def isRagged (reply : ServerReply) : Bool :=
  reply.rows.any fun row => row.length != reply.columns.length

/-- What becomes of the connection on which the reply is given. -/
def connection (reply : ServerReply) : Connection :=
  if reply.closes then .closed else if reply.silent then .blocked else .ready

end ServerReply

namespace ServerError

/-- The wording of an error, behind the constraint that was violated. -/
def reason (e : ServerError) : String :=
  match e.constraint with
  | none => e.message
  | some constraint => constraint ++ ": " ++ e.message

def failure (e : ServerError) (sql : String) : Error :=
  .execution sql e.reason (some e.code)

end ServerError

namespace Session

/-- Encodes values by the types of their parameters, the first of which is the `index`-th. -/
def encodeFrom (sql : String) (index : Nat) :
    List (Value × ColumnType) → Except Error (List Cell)
  | [] => .ok []
  | (v, type) :: rest =>
    match v.encode type with
    | .ok cell => (encodeFrom sql (index + 1) rest).map (cell :: ·)
    | .error _ => .error (.execution sql s!"error serializing parameter {index}" none)

def encodeParams (statement : Statement) (types : List ColumnType) : Except Error (List Cell) :=
  if statement.params.length = types.length then
    encodeFrom statement.sql 0 (statement.params.zip types)
  else
    .error (.execution statement.sql
      s!"expected {types.length} parameters but got {statement.params.length}" none)

/-- The failure of a statement whose connection is gone. -/
def closedError (sql : String) : Error :=
  .execution sql "connection closed" none

/-- The failure of a statement that is never answered: the time limit strikes, and without one
the wait ends with the connection. -/
def silenceError (settings : ExecutionSettings) (sql : String) : Error :=
  match settings.timeout with
  | some after => .timeout sql after
  | none => closedError sql

/-- The failure of a statement whose rows are read although they do not fit their columns. -/
def raggedError (sql : String) : Error :=
  .execution sql "error parsing response from server" none

/-- What becomes of a statement whose parameters have been sent; `reads` tells whether its rows
are read. Rows come before the error that ends them. -/
def settle (settings : ExecutionSettings) (reply : ServerReply) (reads : Bool) (sql : String) :
    Except Error Unit :=
  if reply.closes then .error (closedError sql)
  else if reply.silent then .error (silenceError settings sql)
  else if reads && reply.isRagged then .error (raggedError sql)
  else
    match reply.error with
    | some e => .error (e.failure sql)
    | none => .ok ()

/-- The error that is reported when a statement is prepared. -/
def prepareError? (reply : ServerReply) : Option ServerError :=
  if reply.atPrepare then reply.error else none

/-- No answer can come in time: the server is stuck, or there is no time to wait for it. -/
def isUnanswered (settings : ExecutionSettings) (session : Session) : Bool :=
  session.connection == .blocked || settings.timeout == some ⟨0⟩

/-- The conversation about a statement: what becomes of it, and the session behind it. -/
def converse (settings : ExecutionSettings) (reply : ServerReply) (reads : Bool)
    (statement : Statement) (session : Session) : Except Error Unit × Session :=
  let sql := statement.sql
  let sent (params : Option (List Cell)) : Session :=
    { session with wire := session.wire ++ [⟨sql, params⟩] }
  if sql.toList.contains '\x00' then
    (.error (.execution sql "error encoding message to server" none), session)
  else if session.connection = .closed then (.error (closedError sql), session)
  else if isUnanswered settings session then (.error (silenceError settings sql), session)
  else
    match prepareError? reply with
    | some e => (.error (e.failure sql), sent none)
    | none =>
      match encodeParams statement reply.paramTypes with
      | .error e => (.error e, sent none)
      | .ok cells =>
        (settle settings reply reads sql,
          { sent (some cells) with connection := reply.connection })

/-- The failure of a pool whose server rejects its connections. -/
def rejected : Error :=
  .pool "Error occurred while creating a new object: db error"

def event (settings : ExecutionSettings) (operation : String) (statement : Statement) : Event :=
  .statement settings.level operation statement.params.length
    (Text.shorten settings.maxSql statement.sql)

/-- Runs statements in a session whose server gives the same reply to each. -/
def executor (settings : ExecutionSettings) (reply : ServerReply) : Executor Session where
  fetch statement session :=
    let (outcome, session) := converse settings reply true statement session
    let rows := outcome.bind fun _ => reply.rows.mapM (Record.ofCells reply.columns)
    (⟨[event settings "fetch" statement], rows⟩, session)
  execute statement session :=
    let (outcome, session) := converse settings reply false statement session
    (⟨[event settings "execute" statement], outcome.map fun _ => reply.affected⟩, session)

/-- Runs statements without a server: nothing is read, and every statement affects the same
number of rows unless it is never answered. The state lists the statements. -/
def unconnected (settings : ExecutionSettings) (affected : Nat) (silent : Bool) :
    Executor (List Statement) where
  fetch statement seen :=
    let outcome := if silent then .error (silenceError settings statement.sql) else .ok []
    (⟨[event settings "fetch" statement], outcome⟩, seen ++ [statement])
  execute statement seen :=
    let outcome := if silent then .error (silenceError settings statement.sql) else .ok affected
    (⟨[event settings "execute" statement], outcome⟩, seen ++ [statement])

end Session
end TableAccess
