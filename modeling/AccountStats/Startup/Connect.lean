import AccountStats.Cache.Shared
import AccountStats.ErrorChain
import AccountStats.GitHub.Leasing
import AccountStats.Settings.Basic
import AccountStats.Startup.Calls
/-
What the service connects to when it starts. Without a database it does not start; without Redis it goes on with a cache
in the process, and banner events are dropped.
-/
namespace AccountStats.Startup

/-! ## The database -/

/-- pauses between attempts, in milliseconds at most -/
def connectPauses : List Nat := [200, 400, 800, 1600, 3200]

def noteAttempt (e : Store.DbError) : Program Calls Unit :=
  note (.warn "Database connection attempt failed" [("error", e.text)])

/-- attempts until one succeeds or the pauses are used up; the last error counts -/
def attemptDatabase (url : String) : List Nat → Program Calls (Except Store.DbError Unit)
  | [] => do
    match ← ask (.connectDatabase url) with
    | .ok () => return .ok ()
    | .error e =>
      noteAttempt e
      return .error e
  | pause :: rest => do
    match ← ask (.connectDatabase url) with
    | .ok () => return .ok ()
    | .error e =>
      noteAttempt e
      let () ← ask (.pause pause)
      attemptDatabase url rest

/-- the error of a database that cannot be reached -/
def databaseError (e : Store.DbError) : ErrorChain := ⟨"Failed to connect to database", e.chain⟩

def connectDatabase (s : Settings) : Program Calls (Except ErrorChain Unit) := do
  return (← attemptDatabase s.databaseUrl connectPauses).mapError databaseError

/-! ## Redis -/

/-- where statistics are cached -/
inductive CacheBackend where
  /-- in the process -/
  | memory
  /-- on a Redis server -/
  | shared
deriving DecidableEq, Repr

def connectCache (s : Settings) : Program Calls CacheBackend := do
  match s.redisUrl with
  | none =>
    note (.info "Stats cache in-memory (Redis not configured)" [])
    return .memory
  | some url =>
    match ← redis (Cache.Shared.connect url) with
    | .ok () =>
      note (.info "Stats cache enabled (Redis)" [])
      return .shared
    | .error e =>
      note (.warn ("Failed to connect to Redis: " ++ e.text ++ ". Using in-memory cache.") [])
      return .memory

/-- where banner events go -/
inductive BannerBackend where
  | dropped
  | channel (name : String)
deriving DecidableEq, Repr

def connectPublisher (s : Settings) : Program Calls BannerBackend := do
  match s.redisUrl with
  | none =>
    note (.info "Banner events disabled (Redis not configured)" [])
    return .dropped
  | some url =>
    match ← redis (Cache.Shared.connect url) with
    | .ok () =>
      note (.info "Banner events enabled (Redis)" [("channel", s.bannerChannel)])
      return .channel s.bannerChannel
    | .error e =>
      note (.warn ("Failed to connect banner publisher: " ++ e.text ++ ". Events will be dropped.") [])
      return .dropped

/-! ## GitHub -/

/-- the client that the settings ask for -/
def client (s : Settings) : GitHub.Client := .ofBase s.gitHubUrl

/-- what the services work with -/
structure Backends where
  pool : GitHub.Pool
  publisher : BannerBackend
deriving DecidableEq, Repr

/-- fills the pool of credentials and picks the publisher -/
def connectServices (s : Settings) : Program Calls Backends := do
  let pool ← gitHub ((client s).overHttp (GitHub.connectPool s.tokens))
  note (.info "GitHub credential pool ready"
    [("usable", toString pool.length), ("configured", toString s.tokens.length)])
  return ⟨pool, ← connectPublisher s⟩

end AccountStats.Startup
