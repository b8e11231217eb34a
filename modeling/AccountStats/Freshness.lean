import AccountStats.Time.Instant
/-
How cached statistics age. Up to the soft limit an entry is fresh, up to the hard limit it is stale, after that it is
expired. Ages are exact to the nanosecond; an entry from the future has age zero.
-/
namespace AccountStats

/-- a length of time in nanoseconds -/
abbrev Duration := Nat

namespace Duration

def ofSeconds (n : Nat) : Duration := n * 1000000000
def ofMillis (n : Nat) : Duration := n * 1000000

/-- whole seconds -/
def seconds (d : Duration) : Nat := d / 1000000000

/-- whole milliseconds -/
def millis (d : Duration) : Nat := d / 1000000

end Duration

inductive Freshness where
  | fresh
  | stale
  | expired
deriving DecidableEq, Repr

/-- the limits of the cache and of the refreshes behind it -/
structure FreshnessPolicy where
  soft : Duration
  hard : Duration
  /-- the time a background refresh may take -/
  refreshTimeout : Duration
  /-- background refreshes allowed at once -/
  refreshLimit : Nat
deriving DecidableEq, Repr

namespace FreshnessPolicy

def standard : FreshnessPolicy :=
  ⟨Duration.ofSeconds 600, Duration.ofSeconds 86400, Duration.ofSeconds 30, 16⟩

/-- refreshes that may run at once, at least one -/
def permits (p : FreshnessPolicy) : Nat := max p.refreshLimit 1

end FreshnessPolicy

/-- the age of an entry; one from the future has none -/
def age (updatedAt now : Time.Instant) : Duration := (now.since updatedAt).toNat

def FreshnessPolicy.classify (p : FreshnessPolicy) (updatedAt now : Time.Instant) : Freshness :=
  if age updatedAt now ≤ p.soft then .fresh
  else if age updatedAt now ≤ p.hard then .stale
  else .expired

end AccountStats
