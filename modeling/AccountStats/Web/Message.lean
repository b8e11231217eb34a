import AccountStats.Failure
import AccountStats.Http.Headers
import AccountStats.Text.Split
/-
Requests to the service over HTTP, and its responses.
-/
namespace AccountStats.Web

structure Request where
  method : String
  path : String
  headers : Http.Headers
  body : ByteArray

structure Response where
  status : Nat
  contentType : Option String
  /-- the methods that a path knows, in the answer to one it does not know -/
  allow : Option String
  body : String
deriving DecidableEq, Repr

namespace Response

/-- a status and nothing else -/
def empty (status : Nat) : Response := ⟨status, none, none, ""⟩

def json (status : Nat) (j : Json) : Response := ⟨status, some "application/json", none, j.render⟩

def plain (status : Nat) (s : String) : Response := ⟨status, some "text/plain; charset=utf-8", none, s⟩

def notFound : Response := empty 404

def methodNotAllowed (allow : String) : Response := { empty 405 with allow := some allow }

/-- the response to a failure -/
def ofFailure (f : Failure) : Response := json f.kind.status f.body

/-- what a request for the head alone is answered -/
def withoutBody (r : Response) : Response := { r with body := "" }

end Response

/-! ## The content type of a request -/

/-- whether a value names JSON as its media type, or a type whose suffix is JSON -/
def namesJson (value : List Char) : Bool :=
  let essence := (Text.splitOn ';' value).headD [] |>.dropWhile (· == ' ') |>.reverse |>.dropWhile (· == ' ') |>.reverse
  match Text.splitOnce '/' (essence.map Char.toLower) with
  | some (type, subtype) =>
    type == "application".toList && (subtype == "json".toList || (Text.splitLast '+' subtype).any fun p => p.2 == "json".toList)
  | none => false

def Request.isJson (r : Request) : Bool :=
  ((Http.header? "content-type" r.headers).bind Http.headerText?).any namesJson

end AccountStats.Web
