import AccountStats.GitHub.Pool
import AccountStats.Store.Failure
import AccountStats.Sync.Calls
import AccountStats.Web.Message
/-
The requests that the handlers make: those of the statistics service, and what the health check looks at.
-/
namespace AccountStats.Web

inductive Ask where
  | sync (r : Sync.Ask)
  | pingDatabase
  | cacheHealthy
  | credentials

/-- the type of the reply to each request -/
abbrev Ask.Reply : Ask → Type
  | .sync r => r.Reply
  | .pingDatabase => Except Store.DbError Unit
  | .cacheHealthy => Bool
  | .credentials => List GitHub.Pool.Status

abbrev Calls : Interface := ⟨Ask, Ask.Reply⟩

/-- one request -/
def ask (r : Ask) : Program Calls r.Reply := Program.ask r Program.done

def note (n : Note) : Program Calls Unit := ask (.sync (.note n))

/-- a program of the statistics service -/
def sync (p : Program Sync.Calls α) : Program Calls α :=
  p.through fun r => Program.ask (Ask.sync r) Program.done

/-- the response to a failure; an internal one is noted with its details, which the response leaves out -/
def respond (f : Failure) : Program Calls Response := do
  if f.kind = .internal then
    note (.error "Internal error" [("message", f.message), ("details", f.shownDetails.render)])
  return .ofFailure f

end AccountStats.Web
