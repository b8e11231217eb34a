import AccountStats.Freshness
import AccountStats.Journal
import AccountStats.Sweep.Config
/-
Sweeps at regular intervals. Ticks fall on the multiples of the interval after the start. A sweep begins at its tick, or
as soon as the one before is over; ticks that pass meanwhile are skipped. When the schedule is cancelled, a sweep that
runs is still waited for, and none begins any more: at a tick that falls on the moment of cancellation there is none.

Times are nanoseconds of one clock.
-/
namespace AccountStats.Sweep

structure Schedule where
  start : Nat
  interval : Duration
  interval_pos : 0 < interval

namespace Schedule

/-- intervals are a second at least -/
def ofInterval (start : Nat) (interval : Duration) : Schedule :=
  ⟨start, max interval (Duration.ofSeconds 1), Nat.lt_of_lt_of_le (by decide) (Nat.le_max_right ..)⟩

/-- the first tick -/
def first (s : Schedule) : Nat := s.start + s.interval

/-- the first tick later than a time -/
def after (s : Schedule) (t : Nat) : Nat := s.start + s.interval * ((t - s.start) / s.interval + 1)

theorem lt_after (s : Schedule) (t : Nat) : t < s.after t := by
  have h := Nat.lt_mul_div_succ (t - s.start) s.interval_pos
  unfold after
  omega

end Schedule

/-- one sweep of a schedule -/
structure Round where
  begun : Nat
  ended : Nat
  summary : Summary
deriving DecidableEq, Repr

/-- what a sweep that begins at a time comes to -/
abbrev Sweeper (σ : Type) := Nat → σ → Round × σ

namespace Schedule

/-- the rounds from a tick on, where the round before was over at `free`; and when the last one was -/
def roundsFrom (s : Schedule) (cancelled : Nat) (sweep : Sweeper σ) (tick free : Nat) (world : σ) :
    List Round × Nat × σ :=
  if max tick free < cancelled then
    let (round, world) := sweep (max tick free) world
    let (rounds, free, world) := roundsFrom s cancelled sweep (s.after (max tick free)) round.ended world
    (round :: rounds, free, world)
  else ([], free, world)
termination_by cancelled - tick
decreasing_by
  have := s.lt_after (max tick free)
  omega

/-- what a schedule did until it stopped -/
structure Outcome (σ : Type) where
  rounds : List Round
  stopped : Nat
  world : σ

/-- a schedule that is cancelled at a time -/
def run (s : Schedule) (cancelled : Nat) (sweep : Sweeper σ) (world : σ) : Outcome σ :=
  let (rounds, free, world) := s.roundsFrom cancelled sweep s.first s.start world
  ⟨rounds, max cancelled free, world⟩

/-! ## What it notes -/

def refreshedCounter : Counter := ⟨"stats_refresh_accounts_total", [("outcome", "refreshed")]⟩
def failedCounter : Counter := ⟨"stats_refresh_accounts_total", [("outcome", "failed")]⟩

def roundNotes (r : Round) : Journal := [
  .count refreshedCounter r.summary.refreshed,
  .count failedCounter r.summary.failed,
  .info "Bulk refresh complete" [("refreshed", toString r.summary.refreshed), ("failed", toString r.summary.failed),
    ("elapsed_ms", toString (Duration.millis (r.ended - r.begun)))]]

def notes (s : Schedule) (rounds : List Round) : Journal :=
  .info "Refresh scheduler started" [("interval_secs", toString s.interval.seconds)] ::
    rounds.flatMap roundNotes ++ [.info "Refresh scheduler stopped" []]

end Schedule

end AccountStats.Sweep
