import AccountStats.Account.Stats
import AccountStats.Text.Case
/-
What every cache of statistics has in common: its keys and its failures.
-/
namespace AccountStats.Cache

/-- logins differ in case only, so a key is the login in lower case (ASCII letters) -/
def key (username : String) : String := Text.lowered username

inductive CacheError where
  | connection (message : String)
  | operation (message : String)
deriving DecidableEq, Repr

namespace CacheError

def text : CacheError → String
  | .connection message => "Cache connection error: " ++ message
  | .operation message => "Cache operation error: " ++ message

end CacheError

end AccountStats.Cache
