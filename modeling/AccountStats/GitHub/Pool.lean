import AccountStats.GitHub.Error
import AccountStats.Journal
import AccountStats.Program
import AccountStats.Text.Quoted
/-
The pool of GitHub credentials, in a fixed order, each with its last known quota.

A call to GitHub is paid for by a lease on a credential, which takes one unit of its quota at once. Leasing looks at the
credentials in order and takes the first with quota left. One that is used up but whose window is over is asked for its
quota first; nothing is locked while GitHub answers, so other calls may come between.

The steps that are atomic (`check`, `install`, `record`) are functions on the pool; leasing itself is a program that
asks for them.
-/
namespace AccountStats.GitHub

structure Credential where
  token : String
  quota : Quota
deriving DecidableEq, Repr

/-- the last four characters of a token behind an ellipsis: all of it that may be shown -/
def maskToken (token : String) : String :=
  String.ofList ('…' :: (token.toList.reverse.take 4).reverse)

namespace Credential

def label (c : Credential) : String := maskToken c.token

/-- how a credential appears where a value is dumped -/
def dump (c : Credential) : String := "Credential \x7b label: " ++ Text.quoted c.label ++ ", .. \x7d"

end Credential

abbrev Pool := List Credential

/-- a credential reserved for one call: its place in the pool and its token -/
structure Lease where
  index : Nat
  token : String
deriving DecidableEq, Repr

namespace Lease

def label (l : Lease) : String := maskToken l.token

end Lease

namespace Pool

/-! ## Atomic steps -/

/-- what the check of one credential says -/
inductive Check where
  /-- a unit of quota was reserved -/
  | reserved
  /-- nothing is left, but the window is over: ask for the quota -/
  | probe
  /-- nothing is left in a window that still runs -/
  | skip
deriving DecidableEq, Repr

/-- whether a used-up credential may have quota again -/
def windowOver (q : Quota) (now : Time.Instant) : Bool := q.resetAt.before now

/-- checks a credential, and reserves a unit if one is left -/
def checkCredential (c : Credential) (now : Time.Instant) : Check × Credential :=
  if 0 < c.quota.remaining then
    (.reserved, { c with quota := { c.quota with remaining := c.quota.remaining - 1 } })
  else if windowOver c.quota now then (.probe, c)
  else (.skip, c)

def check (p : Pool) (i : Nat) (now : Time.Instant) : Check × Pool :=
  match p[i]? with
  | some c =>
    let (answer, c) := checkCredential c now
    (answer, p.set i c)
  | none => (.skip, p)

/-- puts a fresh quota in place, and reserves a unit of it if there is one; says whether it did -/
def install (p : Pool) (i : Nat) (fresh : Quota) : Bool × Pool :=
  match p[i]? with
  | some c =>
    if 0 < fresh.remaining then (true, p.set i { c with quota := { fresh with remaining := fresh.remaining - 1 } })
    else (false, p.set i { c with quota := fresh })
  | none => (false, p)

/-- brings a credential up to date with what a response reported -/
def record (p : Pool) (i : Nat) (r : QuotaReport) : Pool :=
  match p[i]? with
  | some c => p.set i { c with quota := c.quota.apply r }
  | none => p

/-- one credential as health checks and operators see it -/
structure Status where
  label : String
  quota : Quota
deriving DecidableEq, Repr

def statuses (p : Pool) : List Status := p.map fun c => ⟨c.label, c.quota⟩

end Pool

/-! ## What programs on the GitHub side ask for -/

/-- a request for the quota of a token failed, or took too long -/
inductive ProbeError where
  | failed (e : CallError)
  | timedOut
deriving DecidableEq, Repr

end AccountStats.GitHub
