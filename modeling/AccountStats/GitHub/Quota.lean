import AccountStats.Http.Headers
import AccountStats.Text.Blank
import AccountStats.Text.Decimal
import AccountStats.Time.Instant
/-
The quota of a credential: how many requests are left in the current window, and when the next window starts. Every
response may report either in its headers.
-/
namespace AccountStats.GitHub

open AccountStats.Text AccountStats.Http

structure Quota where
  remaining : UInt32
  resetAt : Time.Instant
deriving DecidableEq, Repr

/-- what a response reports of the quota; a field is `none` if its header is missing or unusable -/
structure QuotaReport where
  remaining : Option UInt32
  resetAt : Option Time.Instant
deriving DecidableEq, Repr

namespace QuotaReport

def none : QuotaReport := ⟨.none, .none⟩

def remainingHeader : String := "x-ratelimit-remaining"
def resetHeader : String := "x-ratelimit-reset"

def ofHeaders (hs : Headers) : QuotaReport where
  remaining := do
    let text ← headerText? (← header? remainingHeader hs)
    let n ← unsigned? 32 (trim text)
    return UInt32.ofNat n
  resetAt := do
    let text ← headerText? (← header? resetHeader hs)
    Time.Instant.ofSeconds? (← signed? 64 (trim text))

def isEmpty (r : QuotaReport) : Bool := r.remaining.isNone && r.resetAt.isNone

end QuotaReport

/-- the quota after a report: what it says, and the old values where it says nothing -/
def Quota.apply (q : Quota) (r : QuotaReport) : Quota :=
  ⟨r.remaining.getD q.remaining, r.resetAt.getD q.resetAt⟩

end AccountStats.GitHub
