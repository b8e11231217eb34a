import AccountStats.Failure
import AccountStats.Freshness
/-
Settings of a sweep over all stored accounts, and how a sweep reports what went wrong.
-/
namespace AccountStats.Sweep

structure Config where
  /-- capacity of the stream of results -/
  batchSize : Nat
  /-- number of workers, and capacity of the queue of jobs -/
  concurrency : Nat
  /-- how long the entries live that the sweep caches -/
  ttl : Duration
deriving DecidableEq, Repr

namespace Config

def standard : Config := ⟨10, 4, Duration.ofSeconds 86400⟩

/-- zeros replaced by the standard values -/
def normalized (c : Config) : Config where
  batchSize := if c.batchSize = 0 then standard.batchSize else c.batchSize
  concurrency := if c.concurrency = 0 then standard.concurrency else c.concurrency
  ttl := if c.ttl = 0 then standard.ttl else c.ttl

/-- capacity of the stream of problems -/
def errorCapacity (c : Config) : Nat := c.concurrency * 2

theorem batchSize_normalized_pos (c : Config) : 0 < c.normalized.batchSize := by
  simp only [normalized]
  split
  · decide
  · next h => exact Nat.pos_of_ne_zero h

theorem concurrency_normalized_pos (c : Config) : 0 < c.normalized.concurrency := by
  simp only [normalized]
  split
  · decide
  · next h => exact Nat.pos_of_ne_zero h

end Config

inductive Problem where
  /-- the accounts could not be listed; none was refreshed -/
  | listing (cause : Failure)
  | account (username : String) (cause : Failure)
deriving Repr

namespace Problem

def text : Problem → String
  | .listing cause => "producer: listing accounts failed: " ++ cause.text
  | .account username cause => "refreshing " ++ username ++ " failed: " ++ cause.text

end Problem

/-- how many accounts a sweep refreshed, and how many problems it had -/
structure Summary where
  refreshed : Nat
  failed : Nat
deriving DecidableEq, Repr

end AccountStats.Sweep
