import AccountStats.Freshness
/-
Places for refreshes in the background: as many as the policy allows, at least one. A refresh takes a place when it
starts and gives it back when it ends, however it ends.
-/
namespace AccountStats.Sync

structure Background where
  free : Nat
  running : Nat
deriving DecidableEq, Repr

namespace Background

def init (policy : FreshnessPolicy) : Background := ⟨policy.permits, 0⟩

/-- takes a place, if one is free; says whether one was -/
def start (b : Background) : Bool × Background :=
  if 0 < b.free then (true, ⟨b.free - 1, b.running + 1⟩) else (false, b)

/-- gives a place back -/
def finish (b : Background) : Background := ⟨b.free + 1, b.running - 1⟩

end Background

end AccountStats.Sync
