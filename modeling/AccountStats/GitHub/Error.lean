import AccountStats.GitHub.Quota
/-
How a call to GitHub fails. Failures that come from a response keep what that response reported of the quota, so that
the credential that paid for the call can still be brought up to date.
-/
namespace AccountStats.GitHub

inductive CallError where
  /-- 404 -/
  | notFound (report : QuotaReport)
  /-- any other status that is no success -/
  | status (code : Nat) (report : QuotaReport)
  /-- a success whose body is not what was expected -/
  | malformed (message : String) (report : QuotaReport)
  | timeout
  /-- no response at all -/
  | transport (message : String)
deriving DecidableEq, Repr

namespace CallError

def text : CallError → String
  | .notFound _ => "GitHub resource not found"
  | .status code _ => "GitHub API returned status " ++ toString code
  | .malformed message _ => "malformed GitHub response: " ++ message
  | .timeout => "GitHub request timed out"
  | .transport message => "GitHub transport error: " ++ message

/-- what the response reported, if there was one -/
def report? : CallError → Option QuotaReport
  | .notFound r | .status _ r | .malformed _ r => some r
  | .timeout | .transport _ => none

end CallError

/-- a body read, what the response reported of the quota, and the page it names as the next one -/
structure Response (α : Type) where
  body : α
  report : QuotaReport
  nextPage : Option UInt32
deriving DecidableEq, Repr

end AccountStats.GitHub
