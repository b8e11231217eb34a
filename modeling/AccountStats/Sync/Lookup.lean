import AccountStats.Sync.Pipeline
/-
Looking statistics up, in this order: a fresh entry of the cache; a stale one, behind which a refresh is started; the
store; GitHub. Failures of the cache count as misses.
-/
namespace AccountStats.Sync

def lookupCounter (outcome : String) : Counter := ⟨"stats_cache_lookups_total", [("outcome", outcome)]⟩

def noteLookup (outcome : String) : Program Calls Unit := note (.count (lookupCounter outcome) 1)

/-- fetches an account because it was asked for -/
def syncNow (policy : FreshnessPolicy) (username : String) : Program Calls (Except Failure Entry) := do
  match ← pipeline username policy.hard with
  | .error f => return .error f
  | .ok e =>
    note (.info "Stats recalculated from GitHub" [("username", username)])
    return .ok e

/-- why the store gave no snapshot; an account not stored yet is no cause for concern -/
def noteReadFailure (username : String) (f : Failure) : Program Calls Unit :=
  if f.kind = .nothingFound then note (.debug "Account not stored yet" [("username", username)])
  else note (.warn "Store read failed, falling back to GitHub" [("username", username), ("error", f.text)])

/-- from the store, else from GitHub -/
def lookupBehindCache (policy : FreshnessPolicy) (username : String) : Program Calls (Except Failure Entry) := do
  noteLookup "miss"
  match ← ask (.readStored username) with
  | .ok snapshot =>
    let e : Entry := ⟨Stats.ofRepositories snapshot.repositories, ← ask .now⟩
    storeInCache username e policy.hard
    return .ok e
  | .error f =>
    noteReadFailure username f
    syncNow policy username

/-- has a refresh started behind a stale entry; there may be no place for it -/
def refreshBehind (username : String) : Program Calls Unit := do
  if ← ask (.startRefresh username) then return ()
  else note (.debug "Background refresh skipped: limit reached" [("username", username)])

/-- the statistics of an account and when they were computed -/
def getEntry (policy : FreshnessPolicy) (username : String) : Program Calls (Except Failure Entry) := do
  match ← ask (.cacheGet username) with
  | .ok (some e) =>
    match policy.classify e.updatedAt (← ask .now) with
    | .fresh =>
      noteLookup "fresh"
      return .ok e
    | .stale =>
      noteLookup "stale"
      refreshBehind username
      return .ok e
    | .expired =>
      note (.debug "Cached stats past hard TTL" [("username", username)])
      lookupBehindCache policy username
  | .ok none => lookupBehindCache policy username
  | .error err =>
    note (.warn "Stats cache read failed" [("username", username), ("error", err.text)])
    lookupBehindCache policy username

/-- the statistics alone -/
def getStats (policy : FreshnessPolicy) (username : String) : Program Calls (Except Failure Stats) := do
  return (← getEntry policy username).map Entry.stats

/-- fetches an account whatever is cached or stored -/
def recalculate (policy : FreshnessPolicy) (username : String) : Program Calls (Except Failure Stats) := do
  return (← syncNow policy username).map Entry.stats

end AccountStats.Sync
