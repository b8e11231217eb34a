import AccountStats.Freshness
import AccountStats.Sync.Calls
/-
Synchronizing one account: fetch, aggregate, save, cache. Only a failed fetch is a failure; a failed save or cache write
is noted, and the fresh statistics count all the same.
-/
namespace AccountStats.Sync

/-- caches an entry; a failure is noted -/
def storeInCache (username : String) (e : Entry) (ttl : Duration) : Program Calls Unit := do
  match ← ask (.cacheSet username e ttl) with
  | .ok () => return ()
  | .error err => note (.warn "Failed to cache stats" [("username", username), ("error", err.text)])

/-- what becomes of a failed save: a newer snapshot in the store is no cause for concern -/
def noteSave (username : String) : Except Failure Unit → Program Calls Unit
  | .ok () => return ()
  | .error f =>
    if f.kind = .nothingChanged then note (.debug "Store already holds a newer snapshot" [("username", username)])
    else note (.warn "Failed to persist account snapshot" [("username", username), ("error", f.text)])

/-- fetches an account anew; its statistics are cached for `ttl` -/
def pipeline (username : String) (ttl : Duration) : Program Calls (Except Failure Entry) := do
  match ← ask (.fetch username) with
  | .error f => return .error f
  | .ok snapshot =>
    noteSave username (← ask (.save snapshot))
    let e : Entry := ⟨Stats.ofRepositories snapshot.repositories, ← ask .now⟩
    storeInCache username e ttl
    return .ok e

/-- what a sweep does for each account -/
def resync (username : String) (ttl : Duration) : Program Calls (Except Failure Unit) := do
  match ← pipeline username ttl with
  | .ok _ => return .ok ()
  | .error f => return .error f

/-! ## In the background -/

/-- a refresh behind a stale entry; its place is given back at the end -/
def refresh (policy : FreshnessPolicy) (username : String) : Program Calls Unit := do
  match ← pipeline username policy.hard with
  | .ok _ =>
    note (.debug "Background refresh complete" [("username", username)])
    ask .endRefresh
  | .error f =>
    note (.warn "Background refresh failed" [("username", username), ("error", f.text)])
    ask .endRefresh

/-- what is done when a refresh has taken too long -/
def refreshLate (policy : FreshnessPolicy) (username : String) : Program Calls Unit := do
  note (.warn "Background refresh timed out"
    [("username", username), ("timeout_secs", toString policy.refreshTimeout.seconds)])
  ask .endRefresh

end AccountStats.Sync
