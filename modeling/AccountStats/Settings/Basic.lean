import AccountStats.Freshness
import AccountStats.Sweep.Config
/-
The settings of the service, and what its parts are set to.
-/
namespace AccountStats

structure Settings where
  databaseUrl : String
  /-- without it the cache is in the process, and banner events are dropped -/
  redisUrl : Option String
  listen : String
  logFilter : String
  logFormat : String
  /-- access tokens in the order in which they are tried -/
  tokens : List String
  gitHubUrl : String
  gitHubTimeout : UInt64
  softTtl : UInt64
  hardTtl : UInt64
  refreshTimeout : UInt64
  refreshLimit : UInt64
  sweepInterval : UInt64
  sweepConcurrency : UInt64
  sweepBatch : UInt64
  /-- the channel on which banner events are published -/
  bannerChannel : String
  maxConnections : UInt32
  connectTimeout : UInt64
  idleTimeout : UInt64
  maxLifetime : UInt64
deriving DecidableEq, Repr

namespace Settings

/-- a setting in seconds as a length of time -/
def seconds (n : UInt64) : Duration := Duration.ofSeconds n.toNat

def policy (s : Settings) : FreshnessPolicy :=
  ⟨seconds s.softTtl, seconds s.hardTtl, seconds s.refreshTimeout, s.refreshLimit.toNat⟩

/-- what a sweep caches lives as long as an entry may be served -/
def sweep (s : Settings) : Sweep.Config :=
  Sweep.Config.normalized ⟨s.sweepBatch.toNat, s.sweepConcurrency.toNat, seconds s.hardTtl⟩

def requestTimeout (s : Settings) : Duration := seconds s.gitHubTimeout

def interval (s : Settings) : Duration := seconds s.sweepInterval

end Settings

end AccountStats
