import AccountStats.GitHub.Login
import AccountStats.Sync.Lookup
import AccountStats.Web.Calls
/-
`GET /api/stats/{username}`: the statistics of an account. A name that no account can have is answered without looking.
-/
namespace AccountStats.Web

def statsHandler (policy : FreshnessPolicy) (username : String) : Program Calls Response := do
  if GitHub.isLogin username then
    match ← sync (Sync.getEntry policy username) with
    | .ok e => return .json 200 (e.toAnswer username)
    | .error f => respond f
  else respond (Failure.accountNotFound username)

end AccountStats.Web
