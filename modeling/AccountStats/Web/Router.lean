import AccountStats.Text.Percent
import AccountStats.Web.Banners
import AccountStats.Web.Health
import AccountStats.Web.Stats
/-
Which handler answers a request. Slashes at the end of a path do not count, and every request is counted by method,
route and status.
-/
namespace AccountStats.Web

/-- a path without the slashes at its end, and with one in front -/
def normalizedPath (path : String) : List Char :=
  let cs := path.toList
  let slash (c : Char) : Bool := c == '/'
  if cs.getLast? == some '/' || cs.take 2 == ['/', '/'] then
    '/' :: ((cs.dropWhile slash).reverse.dropWhile slash).reverse
  else cs

inductive Route where
  /-- the account is as it stands in the path -/
  | stats (account : List Char)
  | banners
  | health
deriving DecidableEq, Repr

namespace Route

/-- the pattern of the paths that lead to a route -/
def pattern : Route → String
  | .stats _ => "/api/stats/\x7busername\x7d"
  | .banners => "/api/banners"
  | .health => "/api/health"

/-- the methods that a route knows -/
def allow : Route → String
  | .stats _ | .health => "GET,HEAD"
  | .banners => "POST"

def ofPath? (path : List Char) : Option Route :=
  if path = "/api/banners".toList then some .banners
  else if path = "/api/health".toList then some .health
  else match "/api/stats/".toList.isPrefixOf? path with
    | some account => if account = [] ∨ '/' ∈ account then none else some (.stats account)
    | none => none

end Route

/-- the answer of a route to a request that asks for something -/
def handle (policy : FreshnessPolicy) (r : Request) : Route → Program Calls Response
  | .stats account => match Text.percentDecode account with
    | some username => statsHandler policy username
    | none => return .plain 400 "Invalid URL: Invalid UTF-8 in `username`"
  | .banners => bannerHandler policy r
  | .health => healthHandler

/-- the answer of a route, if it knows the method -/
def answerRoute (policy : FreshnessPolicy) (r : Request) (route : Route) : Program Calls Response :=
  match route, r.method with
  | .banners, "POST" => handle policy r route
  | .banners, _ => return .methodNotAllowed route.allow
  | _, "GET" => handle policy r route
  | _, "HEAD" => do return (← handle policy r route).withoutBody
  | _, _ => return .methodNotAllowed route.allow

def requestCounter (method route : String) (status : Nat) : Counter :=
  ⟨"http_requests_total", [("method", method), ("route", route), ("status", toString status)]⟩

/-- the answer to any request -/
def answer (policy : FreshnessPolicy) (r : Request) : Program Calls Response := do
  let route := Route.ofPath? (normalizedPath r.path)
  let response ← match route with
    | some route => answerRoute policy r route
    | none => pure Response.notFound
  note (.count (requestCounter r.method ((route.map Route.pattern).getD "unmatched") response.status) 1)
  return response

end AccountStats.Web
