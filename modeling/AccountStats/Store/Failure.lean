import AccountStats.Failure
import AccountStats.Text.Quoted
/-
How the database fails, and what the service makes of it: a broken uniqueness constraint is a conflict, a missing row is
nothing found, and all else is an internal failure that keeps the text of the driver.
-/
namespace AccountStats.Store

/-- a failure that the operating system reports -/
structure SystemError where
  code : Nat
  kind : String
  text : String
deriving DecidableEq, Repr

namespace SystemError

/-- there is no route to the host -/
def networkUnreachable : SystemError := ⟨101, "NetworkUnreachable", "Network is unreachable"⟩

/-- there is no file of the name -/
def notFound : SystemError := ⟨2, "NotFound", "No such file or directory"⟩

def message (e : SystemError) : String := e.text ++ " (os error " ++ toString e.code ++ ")"

/-- a failure where a value is dumped -/
def dump (e : SystemError) : String :=
  "Os \x7b code: " ++ toString e.code ++ ", kind: " ++ e.kind ++ ", message: " ++ Text.quoted e.text ++ " \x7d"

end SystemError

/-- a column of a row, by its name or by its place -/
inductive Column where
  | named (name : String)
  | at (place : Nat)
deriving DecidableEq, Repr

def Column.text : Column → String
  | .named name => "\"" ++ name ++ "\""
  | .at place => toString place

inductive DbError where
  /-- the server refused a statement; the code is its SQLSTATE -/
  | server (code : String) (message : String) (constraint : Option String)
  | rowNotFound
  | poolTimedOut
  | poolClosed
  | workerCrashed
  | protocol (message : String)
  | columnNotFound (name : String)
  | typeNotFound (name : String)
  | configuration (message : String)
  /-- the configuration is wrong for a cause that is an error of its own -/
  | misconfigured (cause : DbError)
  | decode (message : String)
  /-- a value is not what is read from its column -/
  | columnDecode (column : Column) (message : String)
  | io (message : String)
  | system (error : SystemError)
deriving DecidableEq, Repr

namespace DbError

def uniqueViolation : String := "23505"
def serializationFailure : String := "40001"

def text : DbError → String
  | .server _ message _ => "error returned from database: " ++ message
  | .rowNotFound => "no rows returned by a query that expected to return at least one row"
  | .poolTimedOut => "pool timed out while waiting for an open connection"
  | .poolClosed => "attempted to acquire a connection on a closed pool"
  | .workerCrashed => "attempted to communicate with a crashed background worker"
  | .protocol message => "encountered unexpected or invalid data: " ++ message
  | .columnNotFound name => "no column found for name: " ++ name
  | .typeNotFound name => "type named " ++ name ++ " not found"
  | .configuration message => "error with configuration: " ++ message
  | .misconfigured cause => "error with configuration: " ++ cause.text
  | .decode message => "error occurred while decoding: " ++ message
  | .columnDecode column message => "error occurred while decoding column " ++ column.text ++ ": " ++ message
  | .io message => "error communicating with database: " ++ message
  | .system e => "error communicating with database: " ++ e.message

/-- the text, and those of the causes if there are any -/
def chain : DbError → List String
  | .misconfigured cause => (DbError.misconfigured cause).text :: cause.chain
  | .server code message constraint => [(DbError.server code message constraint).text, message]
  | .configuration message => [(DbError.configuration message).text, message]
  | .decode message => [(DbError.decode message).text, message]
  | .columnDecode column message => [(DbError.columnDecode column message).text, message]
  | .io message => [(DbError.io message).text, message]
  | .system cause => [(DbError.system cause).text, cause.message]
  | e => [e.text]

/-- the failure that the service raises for it -/
def toFailure : DbError → Failure
  | .server code message constraint =>
    if code = uniqueViolation then
      ⟨.conflict, "Unique constraint violation", .record [("constraint", .ofOption .text constraint)]⟩
    else ⟨.internal, "Database error", Failure.fields [("reason", (DbError.server code message constraint).text)]⟩
  | .rowNotFound => ⟨.nothingFound, "No matching row", .record []⟩
  | e => ⟨.internal, "Database error", Failure.fields [("reason", e.text)]⟩

/-- whether the transaction may simply be tried again -/
def isSerializationFailure : DbError → Bool
  | .server code _ _ => code == serializationFailure
  | _ => false

end DbError

end AccountStats.Store
