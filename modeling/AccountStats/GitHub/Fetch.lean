import AccountStats.Failure
import AccountStats.GitHub.Leasing
import AccountStats.GitHub.Login
/-
Fetching an account: its profile, then its repositories page by page. Every request is paid for by a lease of its own,
and what a response reports of the quota settles on the credential that paid, whether the request succeeded or not. The
first failure ends the fetch; pages already read are dropped.

A page is followed only by a page with a greater number, so a listing ends.
-/
namespace AccountStats.GitHub

/-- a lease for one request on behalf of an account -/
def leaseFor (tokens : List String) (username : String) : Program Calls (Except Failure Lease) := do
  match ← acquire tokens with
  | some l => return .ok l
  | none => return .error (Failure.noQuotaLeft username)

/-- what an outcome reports of the quota, if there was a response -/
def reportOf? : Except CallError (Response α) → Option QuotaReport
  | .ok r => some r.report
  | .error e => e.report?

/-- brings the credential that paid for a request up to date -/
def settle (l : Lease) : Option QuotaReport → Program Calls Unit
  | some r => ask (.record l.index r)
  | none => return ()

/-- the failure that a failed request means for an account -/
def failureOf (username : String) : CallError → Program Calls Failure
  | .notFound _ => return Failure.accountNotFound username
  | e => do
    note (.warn "GitHub request failed" [("username", username), ("error", e.text)])
    return Failure.gitHubUnavailable username e.text

/-- the end of a request: the quota settled, and the response or the failure -/
def conclude (username : String) (l : Lease) (outcome : Except CallError (Response α)) :
    Program Calls (Except Failure (Response α)) := do
  settle l (reportOf? outcome)
  match outcome with
  | .ok r => return .ok r
  | .error e => return .error (← failureOf username e)

def fetchUser (tokens : List String) (username : String) : Program Calls (Except Failure User) := do
  match ← leaseFor tokens username with
  | .error f => return .error f
  | .ok l =>
    match ← conclude username l (← ask (.getUser l.token username)) with
    | .error f => return .error f
    | .ok r => return .ok r.body

/-- the repositories on a page -/
def repositoriesOn (r : Response (List ListedRepository)) : List Repository := r.body.map ListedRepository.toRepository

/-- the repositories from one page on -/
def fetchPages (tokens : List String) (username : String) (page : UInt32) :
    Program Calls (Except Failure (List Repository)) := do
  match ← leaseFor tokens username with
  | .error f => return .error f
  | .ok l =>
    match ← conclude username l (← ask (.listRepositories l.token username page)) with
    | .error f => return .error f
    | .ok r =>
      match r.nextPage with
      | none => return .ok (repositoriesOn r)
      | some next =>
        if page < next then
          match ← fetchPages tokens username next with
          | .error f => return .error f
          | .ok rest => return .ok (repositoriesOn r ++ rest)
        else return .ok (repositoriesOn r)
termination_by 4294967296 - page.toNat
decreasing_by
  have h : page < next := by assumption
  have := UInt32.lt_iff_toNat_lt.1 h
  have := next.toNat_lt
  omega

/-- the snapshot of an account; a text that is no login names no account, and GitHub is not asked -/
def fetchAccount (tokens : List String) (username : String) : Program Calls (Except Failure Snapshot) := do
  if isLogin username then
    match ← fetchUser tokens username with
    | .error f => return .error f
    | .ok user =>
      match ← fetchPages tokens username 1 with
      | .error f => return .error f
      | .ok repositories =>
        let now ← ask .now
        return .ok ⟨user.toProfile, repositories, now⟩
  else return .error (Failure.accountNotFound username)

end AccountStats.GitHub
