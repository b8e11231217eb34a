import AccountStats.Banner.Publish
import AccountStats.GitHub.Login
import AccountStats.Json.Reader
import AccountStats.Text.Blank
import AccountStats.Web.Calls
/-
`POST /api/banners`: publishes a banner. The request is checked before anything is looked up; blanks around the name and
the path do not count.
-/
namespace AccountStats.Web

/-- a request for a banner that was checked -/
structure BannerOrder where
  username : String
  layout : Banner.Layout
  storagePath : String
deriving DecidableEq, Repr

/-- checks the fields in their order -/
def checkOrder (r : Banner.Request) : Except Failure BannerOrder :=
  let username := Text.trimmed r.username
  if GitHub.isLogin username then
    match Banner.Layout.ofName? r.layout with
    | none => .error (Failure.unknownBanner (Banner.Layout.unknownMessage r.layout) r.layout)
    | some layout =>
      let storagePath := Text.trimmed r.storagePath
      if storagePath = "" then .error Failure.emptyStoragePath else .ok ⟨username, layout, storagePath⟩
  else .error (Failure.invalidLogin r.username)

/-- the answer to a request for a banner -/
def publishBanner (policy : FreshnessPolicy) (r : Banner.Request) : Program Calls Response := do
  match checkOrder r with
  | .error f => respond f
  | .ok order =>
    match ← sync (Banner.publish policy order.username order.layout order.storagePath) with
    | .ok event => return .json 202 event.toJson
    | .error f => respond f

/-! ## Bodies -/

/-- bytes that a body may have -/
def maxBody : Nat := 2097152

/-- the request in a body, or the response that refuses it -/
def bannerRequest (r : Request) : Except Response Banner.Request :=
  if !r.isJson then .error (.plain 415 "Expected request with `Content-Type: application/json`")
  else if maxBody < r.body.size then .error (.plain 413 "Failed to buffer the request body: length limit exceeded")
  else match Json.readBytes r.body with
    | none => .error (.plain 400 "Failed to parse the request body as JSON: malformed text")
    | some j => match Banner.Request.ofJson? j with
      | none => .error (.plain 422 "Failed to deserialize the JSON body into the target type: unexpected value")
      | some request => .ok request

def bannerHandler (policy : FreshnessPolicy) (r : Request) : Program Calls Response :=
  match bannerRequest r with
  | .error response => return response
  | .ok request => publishBanner policy request

end AccountStats.Web
