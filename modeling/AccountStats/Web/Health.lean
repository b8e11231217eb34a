import AccountStats.Json.Shape
import AccountStats.Web.Calls
/-
`GET /api/health`: whether database, cache and GitHub credentials can be used.
-/
namespace AccountStats.Web

/-- the outcome of one check, and what is said of it -/
structure Check where
  ok : Bool
  message : String
deriving DecidableEq, Repr

namespace Check

def members (c : Check) : List (String × Json) :=
  [("status", .text (if c.ok then "ok" else "error")), ("message", .text c.message)]

def ofDatabase : Except Store.DbError Unit → Check
  | .ok () => ⟨true, "Connected"⟩
  | .error e => ⟨false, "Database error: " ++ e.text⟩

def ofCache (healthy : Bool) : Check :=
  if healthy then ⟨true, "Cache reachable"⟩ else ⟨false, "Cache connection failed"⟩

/-- a credential that has quota left, or whose window is over -/
def usable (now : Time.Instant) (c : GitHub.Pool.Status) : Bool :=
  0 < c.quota.remaining || !now.before c.quota.resetAt

/-- the earliest of these times -/
def earliest : List Time.Instant → Option Time.Instant
  | [] => none
  | t :: ts => match earliest ts with
    | none => some t
    | some u => if u.before t then some u else some t

def ofCredentials (now : Time.Instant) (cs : List GitHub.Pool.Status) : Check :=
  let n := (cs.filter (usable now)).length
  if cs = [] then ⟨false, "No usable GitHub credentials"⟩
  else if n = 0 then
    match earliest (cs.map fun c => c.quota.resetAt) with
    | some t => ⟨false, "All credentials exhausted until " ++ Time.Rfc3339.renderWithOffset t⟩
    | none => ⟨false, "All credentials exhausted"⟩
  else ⟨true, toString n ++ " of " ++ toString cs.length ++ " credentials usable"⟩

end Check

def ofCredentialStatus (c : GitHub.Pool.Status) : Json :=
  .record [("label", .text c.label), ("remaining", .int c.quota.remaining.toNat),
    ("reset_at", .ofInstant c.quota.resetAt)]

def version : String := "0.1.0"

/-- what the checks come to -/
structure Health where
  database : Check
  cache : Check
  gitHub : Check
  credentials : List GitHub.Pool.Status

namespace Health

def ok (h : Health) : Bool := h.database.ok && h.cache.ok && h.gitHub.ok

def toJson (h : Health) : Json :=
  .record [
    ("status", .text (if h.ok then "healthy" else "degraded")), ("version", .text version),
    ("checks", .record [
      ("database", .record h.database.members), ("cache", .record h.cache.members),
      ("github", .record (h.gitHub.members ++ [("credentials", .array (h.credentials.map ofCredentialStatus))]))])]

def toResponse (h : Health) : Response := .json (if h.ok then 200 else 503) h.toJson

end Health

def healthHandler : Program Calls Response := do
  let database := Check.ofDatabase (← ask .pingDatabase)
  let cache := Check.ofCache (← ask .cacheHealthy)
  let credentials ← ask .credentials
  let now ← ask (.sync .now)
  return Health.toResponse ⟨database, cache, Check.ofCredentials now credentials, credentials⟩

end AccountStats.Web
