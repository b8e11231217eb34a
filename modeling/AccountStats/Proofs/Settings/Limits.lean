import Mathlib.Tactic
import AccountStats.Admin.Run
import AccountStats.Sweep.Schedule
import AccountStats.Proofs.Cache.Memory
/-
Whether what settings ask for is something that the runtime can do.

Clock readings, channels and semaphores have limits of their own, past which the process ends. Results:
- `unbroken_of_accepted`: settings that are accepted break none of the rules;
- `limits_of_accepted`: which of them can run;
- `accepted_unrunnable`: some cannot.
-/
namespace AccountStats.Settings

open Admin (sweepConfig)
open Sweep (Config Schedule)

/-! ## Limits of the runtime -/

/-- the end of the monotonic clock, which counts seconds in 63 bits -/
def clockEnd : Nat := Duration.ofSeconds (2 ^ 63)

/-- places that a channel or a semaphore can have at most -/
def maxPlaces : Nat := 2 ^ 61 - 1

/-- a number of places that a channel or a semaphore can have -/
structure Places (n : Nat) : Prop where
  pos : 1 ≤ n
  le : n ≤ maxPlaces

/-- everything that settings and the command line ask for from a clock reading on is within the limits: when entries
expire that are cached now, the first tick of the schedule, the channels of a sweep and the places for refreshes -/
structure Runnable (s : Settings) (workers : Option Nat) (now : Nat) : Prop where
  expiry : ∀ (m : Cache.Memory) (username : String) (e : Entry) (slot : Cache.Slot),
    (m.set now username e s.policy.hard).slot? (Cache.key username) = some slot → slot.expiresAt < clockEnd
  tick : (Schedule.ofInterval now s.interval).first < clockEnd
  results : Places (sweepConfig s workers).batchSize
  jobs : Places (sweepConfig s workers).concurrency
  problems : Places (sweepConfig s workers).errorCapacity
  refreshes : Places s.policy.permits

variable {s : Settings} {workers : Option Nat} {now : Nat}

/-! ## What is asked for -/

theorem expiry_iff : (∀ (m : Cache.Memory) (username : String) (e : Entry) (slot : Cache.Slot),
    (m.set now username e s.policy.hard).slot? (Cache.key username) = some slot → slot.expiresAt < clockEnd) ↔
      now + s.policy.hard < clockEnd := by
  constructor
  · intro h
    exact h .empty "" ⟨Stats.ofRepositories [], .epoch⟩ _ rfl
  · intro h m username e slot hslot
    rw [Cache.Memory.slot?_set, if_pos rfl] at hslot
    cases hslot
    exact h

/-- the number of workers given on the command line does not touch the stream of results -/
theorem batchSize_sweepConfig : (sweepConfig s workers).batchSize = s.sweep.batchSize := by
  have hpos : s.sweep.batchSize ≠ 0 := Nat.ne_of_gt (Config.batchSize_normalized_pos _)
  cases workers <;> exact if_neg hpos

theorem concurrency_sweepConfig_none : (sweepConfig s none).concurrency = s.sweep.concurrency :=
  if_neg (Nat.ne_of_gt (Config.concurrency_normalized_pos _))

theorem concurrency_sweepConfig_some (n : Nat) :
    (sweepConfig s (some n)).concurrency = if n = 0 then Config.standard.concurrency else n := rfl

/-! ## Settings that are accepted -/

theorem unbroken_of_accepted (h : s.fault? = none) (broken : Bool) (fault : Fault)
    (hrule : (broken, fault) ∈ s.rules) : broken = false := by
  rw [fault?, Option.map_eq_none_iff, List.find?_eq_none] at h
  exact Bool.eq_false_iff.2 (h _ hrule)

theorem refreshLimit_le (h : s.fault? = none) : s.refreshLimit.toNat ≤ 1024 := by
  have hrule := unbroken_of_accepted h (s.refreshLimit == 0 || s.refreshLimit > 1024) (.refreshLimit s.refreshLimit)
    (by simp [rules])
  have hlimit := (Bool.or_eq_false_iff.1 hrule).2
  exact UInt64.le_iff_toNat_le.1 (UInt64.not_lt.1 (of_decide_eq_false hlimit))

theorem sweepConcurrency_le (h : s.fault? = none) : s.sweepConcurrency.toNat ≤ 256 := by
  have hrule := unbroken_of_accepted h (s.sweepConcurrency > 256) (.sweepConcurrency s.sweepConcurrency)
    (by simp [rules])
  exact UInt64.le_iff_toNat_le.1 (UInt64.not_lt.1 (of_decide_eq_false hrule))

theorem sweepInterval_pos (h : s.fault? = none) : 0 < s.sweepInterval.toNat := by
  have hrule := unbroken_of_accepted h (s.sweepInterval == 0) .noSweepInterval (by simp [rules])
  refine Nat.pos_of_ne_zero fun hzero => ?_
  have : s.sweepInterval = 0 := UInt64.toNat_inj.1 hzero
  simp [this] at hrule

/-- an interval that is accepted is a second at least, so the first tick is one interval away -/
theorem first_ofInterval (h : s.fault? = none) :
    (Schedule.ofInterval now s.interval).first = now + seconds s.sweepInterval := by
  have hpos := sweepInterval_pos h
  have hsecond : Duration.ofSeconds 1 ≤ s.interval := by
    rw [interval, seconds, Duration.ofSeconds, Duration.ofSeconds]
    exact Nat.mul_le_mul_right _ hpos
  exact congrArg (now + ·) (Nat.max_eq_left hsecond)

theorem concurrency_sweep_le (h : s.fault? = none) : s.sweep.concurrency ≤ 256 := by
  have hle := sweepConcurrency_le h
  change (if s.sweepConcurrency.toNat = 0 then 4 else s.sweepConcurrency.toNat) ≤ 256
  split <;> omega

theorem places_permits (h : s.fault? = none) : Places s.policy.permits where
  pos := Nat.le_max_right ..
  le := by
    have hle := refreshLimit_le h
    change max s.refreshLimit.toNat 1 ≤ 2 ^ 61 - 1
    omega

theorem places_results_iff : Places (sweepConfig s workers).batchSize ↔ s.sweepBatch.toNat ≤ maxPlaces := by
  have hbatch : s.sweep.batchSize = if s.sweepBatch.toNat = 0 then 10 else s.sweepBatch.toNat := rfl
  rw [batchSize_sweepConfig, hbatch]
  constructor
  · rintro ⟨-, hle⟩
    split at hle
    · omega
    · exact hle
  · intro hle
    refine ⟨?_, ?_⟩
    · split <;> omega
    · split
      · decide
      · exact hle

/-- workers that the settings ask for have room, and those of the command line as far as twice their number has -/
theorem places_workers_iff (h : s.fault? = none) :
    Places (sweepConfig s workers).concurrency ∧ Places (sweepConfig s workers).errorCapacity ↔
      ∀ n ∈ workers, 2 * n ≤ maxPlaces := by
  have hmax : maxPlaces = 2305843009213693951 := by decide
  unfold Config.errorCapacity
  cases workers with
  | none =>
    have hpos : 0 < s.sweep.concurrency := Config.concurrency_normalized_pos _
    have hle := concurrency_sweep_le h
    rw [concurrency_sweepConfig_none]
    exact iff_of_true ⟨⟨hpos, by omega⟩, ⟨by omega, by omega⟩⟩ nofun
  | some n =>
    rw [concurrency_sweepConfig_some]
    simp only [Option.mem_some_iff, forall_eq']
    by_cases hn : n = 0
    · have hstandard : Config.standard.concurrency = 4 := rfl
      rw [if_pos hn, hstandard]
      exact iff_of_true ⟨⟨by omega, by omega⟩, ⟨by omega, by omega⟩⟩ (by omega)
    · rw [if_neg hn]
      constructor
      · rintro ⟨-, -, hle⟩
        omega
      · intro hle
        exact ⟨⟨by omega, by omega⟩, ⟨by omega, by omega⟩⟩

/-- **Which of the settings that are accepted can run.** The places for refreshes and those for the workers that the
settings ask for are always within the limits. Whether all is depends on the two lengths of time that are added to the
clock, the stream of results, and the workers that the command line asks for. -/
theorem limits_of_accepted (h : s.fault? = none) :
    (Runnable s workers now ↔ now + seconds s.hardTtl < clockEnd ∧ now + seconds s.sweepInterval < clockEnd ∧
      s.sweepBatch.toNat ≤ maxPlaces ∧ ∀ n ∈ workers, 2 * n ≤ maxPlaces) ∧
    Places s.policy.permits ∧ Places s.sweep.concurrency ∧ Places s.sweep.errorCapacity := by
  have hpermits := places_permits h
  have hown : Places s.sweep.concurrency ∧ Places s.sweep.errorCapacity := by
    have hplaces : Places (sweepConfig s none).concurrency ∧ Places (sweepConfig s none).errorCapacity :=
      (places_workers_iff h).2 nofun
    rwa [Config.errorCapacity, concurrency_sweepConfig_none] at hplaces
  refine ⟨⟨fun hrun => ?_, fun ⟨hhard, hinterval, hbatch, hworkers⟩ => ?_⟩, hpermits, hown⟩
  · exact ⟨expiry_iff.1 hrun.expiry, first_ofInterval h ▸ hrun.tick, places_results_iff.1 hrun.results,
      (places_workers_iff h).1 ⟨hrun.jobs, hrun.problems⟩⟩
  · have hjobs := (places_workers_iff h).2 hworkers
    exact {
      expiry := expiry_iff.2 hhard
      tick := (first_ofInterval h).symm ▸ hinterval
      results := places_results_iff.2 hbatch
      jobs := hjobs.1
      problems := hjobs.2
      refreshes := hpermits }

/-- settings as they are found in practice -/
def modest : Settings where
  databaseUrl := "postgres://stats@db/github_stats"
  redisUrl := none
  listen := "127.0.0.1:8080"
  logFilter := "debug"
  logFormat := "text"
  tokens := ["ghp_test"]
  gitHubUrl := "https://api.github.com"
  gitHubTimeout := 10
  softTtl := 600
  hardTtl := 86400
  refreshTimeout := 30
  refreshLimit := 16
  sweepInterval := 3600
  sweepConcurrency := 4
  sweepBatch := 10
  bannerChannel := "github_banner_info"
  maxConnections := 5
  connectTimeout := 15
  idleTimeout := 300
  maxLifetime := 900

theorem limits_of_modest : modest.fault? = none ∧ Runnable modest (some 8) (Duration.ofSeconds 86400) := by
  have haccepted : modest.fault? = none := by decide
  refine ⟨haccepted, (limits_of_accepted haccepted).1.2 ⟨by decide, by decide, by decide, ?_⟩⟩
  rintro n ⟨⟩
  decide

/-- **Not all settings that are accepted can run.** The longest time that an entry may be served, the longest interval
and the largest number of results are accepted, and so is any number of workers on the command line, but each of them is
past a limit. -/
theorem accepted_unrunnable :
    let endless := { modest with hardTtl := 18446744073709551615 }
    let rare := { modest with sweepInterval := 18446744073709551615 }
    let wide := { modest with sweepBatch := 18446744073709551615 }
    (endless.fault? = none ∧ ¬ Runnable endless none 0) ∧ (rare.fault? = none ∧ ¬ Runnable rare none 0) ∧
      (wide.fault? = none ∧ ¬ Runnable wide none 0) ∧
      modest.fault? = none ∧ ¬ Runnable modest (some 18446744073709551615) 0 := by
  refine ⟨⟨by decide, fun hrun => ?_⟩, ⟨by decide, fun hrun => ?_⟩, ⟨by decide, fun hrun => ?_⟩,
    by decide, fun hrun => ?_⟩
  · exact absurd (expiry_iff.1 hrun.expiry) (by decide)
  · exact absurd hrun.tick (by decide)
  · exact absurd (places_results_iff.1 hrun.results) (by decide)
  · exact absurd hrun.jobs.le (by decide)

end AccountStats.Settings
