import AccountStats.GitHub.Calls
import AccountStats.GitHub.Tokens
/-
Filling the pool at the start, and leasing a credential for a call.
-/
namespace AccountStats.GitHub

/-! ## Filling the pool -/

def noteLoaded (token : String) (q : Quota) : Program Calls Unit :=
  note (.info "GitHub credential loaded" [("credential", maskToken token), ("remaining", toString q.remaining),
    ("reset_at", Time.Rfc3339.renderSpaced q.resetAt)])

def noteSkipped (token : String) : ProbeError → Program Calls Unit
  | .failed e => note (.warn "Skipping GitHub credential" [("credential", maskToken token), ("error", e.text)])
  | .timedOut => note (.warn "Skipping GitHub credential: probe timed out" [("credential", maskToken token)])

/-- asks for the quota of each token in turn; those that answer make the pool -/
def probeAll : List String → Program Calls Pool
  | [] => return []
  | token :: rest => do
    match ← ask (.probe token) with
    | .ok q =>
      noteLoaded token q
      return ⟨token, q⟩ :: (← probeAll rest)
    | .error e =>
      noteSkipped token e
      probeAll rest

/-- the pool of the tokens that answer a first request for their quota -/
def connectPool (tokens : List String) : Program Calls Pool := do
  let pool ← probeAll (usableTokens tokens)
  if pool = [] then
    note (.warn "No usable GitHub credentials; every fetch will fail until restart" [])
  return pool

/-! ## Leasing -/

def exhaustedCounter : Counter := ⟨"github_credential_pool_exhausted_total", []⟩

def noteProbeFailure (token : String) : ProbeError → Program Calls Unit
  | .failed e => note (.warn "Quota probe failed" [("credential", maskToken token), ("error", e.text)])
  | .timedOut => note (.warn "Quota probe timed out" [("credential", maskToken token)])

/-- tries the credentials with the given tokens, the first of which stands at `i` in the pool -/
def leaseFrom (i : Nat) : List String → Program Calls (Option Lease)
  | [] => return none
  | token :: rest => do
    match ← ask (.check i) with
    | .reserved => return some ⟨i, token⟩
    | .skip => leaseFrom (i + 1) rest
    | .probe =>
      match ← ask (.probe token) with
      | .ok fresh =>
        if ← ask (.install i fresh) then return some ⟨i, token⟩
        leaseFrom (i + 1) rest
      | .error e =>
        noteProbeFailure token e
        leaseFrom (i + 1) rest

/-- leases the first credential with quota; `none` when all are used up -/
def acquire (tokens : List String) : Program Calls (Option Lease) := do
  match ← leaseFrom 0 tokens with
  | some l => return some l
  | none =>
    note (.count exhaustedCounter 1)
    note (.warn "All GitHub credentials exhausted" [("credentials", toString tokens.length)])
    return none

end AccountStats.GitHub
