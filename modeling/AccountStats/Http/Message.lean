import AccountStats.Http.Headers
/-
Requests over HTTP and what comes of them.
-/
namespace AccountStats.Http

/-- a `GET` request -/
structure Get where
  url : String
  headers : List (String × String)
deriving DecidableEq, Repr

/-- the body of a response -/
inductive Body where
  | whole (bytes : ByteArray)
  /-- the connection ended before the body did -/
  | cut
  /-- the rest of the body did not come in time -/
  | late

/-- what comes of a request -/
inductive Outcome where
  | response (status : Nat) (headers : Headers) (body : Body)
  /-- no response came in time -/
  | timeout
  /-- the request could not be sent, or the connection ended before the response began -/
  | failed (message : String)

end AccountStats.Http
