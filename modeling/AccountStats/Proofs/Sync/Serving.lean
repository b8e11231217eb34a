import Mathlib.Tactic
import AccountStats.Proofs.Freshness
import AccountStats.Proofs.Sync.Refreshing
import AccountStats.Proofs.Sync.Tiers
/-
Which entries are served, and which are refreshed.

The cache may be any: it may keep an entry longer than the service serves it, and hold entries that the service has not
written. What counts is the age of the entry at the moment at which the look-up reads the clock. Results:
- `served_of_runs`: a look-up that asks neither the store nor GitHub has served the entry that it read in the cache;
- `within_limits`: after any run of look-ups and refreshes, what was served is within the hard limit, and what is
  refreshed is past the soft one; and how an entry ages;
- `leapSeconds_move_back`: in leap seconds a class does move back.
-/
namespace AccountStats.Sync

open Program (Exchange Runs leads_done_iff_runs)

variable {policy : FreshnessPolicy} {username : String} {es : List (Exchange Calls)}
  {result : Except Failure Entry}

/-- behind the cache the store is asked, at least -/
theorem Behind.calls_ne_nil {tier : Tier} (h : Behind policy username tier es) :
    tier.calls policy username ≠ [] := by
  cases h <;> exact List.cons_ne_nil _ _

/-- **A look-up that asks neither the store nor GitHub** has served the entry that it read in the cache, which was not
expired when it read the clock. -/
theorem served_of_runs (h : Runs (getEntry policy username) es result) (hcalls : callsOf es = []) :
    ∃ e now rest, es = ⟨.cacheGet username, .ok (some e)⟩ :: ⟨.now, now⟩ :: rest ∧ result = .ok e ∧
      policy.classify e.updatedAt now ≠ .expired := by
  obtain ⟨tier, hserved, rfl⟩ := getEntry_iff_served.1 h
  cases hserved with
  | @fresh e now hclass =>
    refine ⟨e, now, _, rfl, rfl, ?_⟩
    rw [hclass]
    decide
  | @stale e now granted hclass =>
    refine ⟨e, now, _, rfl, rfl, ?_⟩
    rw [hclass]
    decide
  | behind hmissed hbehind =>
    have hcame := (hmissed.aside.append hbehind.comesTo).calls
    rw [hcalls, List.nil_append] at hcame
    exact absurd hcame.symm hbehind.calls_ne_nil

namespace Service

variable {κ : Type} {server : CacheServer κ} {cache : κ} {moves : List Move} {s : Service κ}

/-- what the limits say of the entries that are served and refreshed -/
structure WithinLimits (server : CacheServer κ) (policy : FreshnessPolicy) (s : Service κ) : Prop where
  /-- what a look-up has served without asking the store or GitHub is an entry of the cache, which was not older than
  the hard limit at the reading of the clock that it used -/
  served : ∀ c ∈ s.lookups, ∀ result, c.rest = .done result → callsOf c.past = [] → ∃ e now rest,
    c.past = ⟨.cacheGet c.username, .ok (some e)⟩ :: ⟨.now, now⟩ :: rest ∧ result = .ok e ∧
      age e.updatedAt now ≤ policy.hard
  /-- a move that starts a refresh is one of a look-up that has read an entry in the cache which was older than the soft
  limit, and not older than the hard one -/
  refreshed : ∀ m t, s.step? server policy m = some t → t.refreshes.length ≠ s.refreshes.length →
    ∃ k o c e now, m = .call k o ∧ s.lookups[k]? = some c ∧ c.past = staleHit c.username e now ∧
      t.refreshes = s.refreshes ++ [.start policy c.username] ∧ policy.soft < age e.updatedAt now ∧
      age e.updatedAt now ≤ policy.hard

theorem withinLimits_of_run (hlimits : policy.soft ≤ policy.hard)
    (hrun : (start policy cache).run? server policy moves = some s) : WithinLimits server policy s where
  served c hc result hdone hcalls := by
    have hleads := (sound_of_run hrun).lookups c hc
    rw [hdone] at hleads
    obtain ⟨e, now, rest, hpast, hresult, hclass⟩ := served_of_runs (leads_done_iff_runs.1 hleads) hcalls
    exact ⟨e, now, rest, hpast, hresult, (classify_ne_expired_iff hlimits).1 hclass⟩
  refreshed m t hstep hmore := by
    rcases step_starts (sound_of_run hrun) hstep with ⟨k, c, e, hmeets, -, hrefreshes⟩ | ⟨-, hsame⟩
    · obtain ⟨⟨o, hm⟩, hk, now, hstale, hpast, -⟩ := hmeets
      have hsoft : policy.soft < age e.updatedAt now := by
        rw [← classify_ne_fresh_iff, hstale]
        decide
      have hhard : age e.updatedAt now ≤ policy.hard := by
        rw [← classify_ne_expired_iff hlimits, hstale]
        decide
      -- without a free place nothing would have been started
      have hfree : 0 < s.world.background.free := by
        by_contra hfull
        rw [if_neg hfull, List.append_nil] at hrefreshes
        exact hmore (congrArg List.length hrefreshes)
      rw [if_pos hfree] at hrefreshes
      exact ⟨k, o, c, e, now, hm, hk, hpast, hrefreshes, hsoft, hhard⟩
    · exact absurd hsame hmore

/-- how an entry ages from one reading of the clock to a later one -/
structure Ages (policy : FreshnessPolicy) (updatedAt now later : Time.Instant) : Prop where
  /-- ages are exact to the nanosecond -/
  exact : age updatedAt now = (now.sinceEpoch - updatedAt.sinceEpoch).toNat
  /-- an entry from the future has age zero -/
  future : updatedAt.before now = false → age updatedAt now = 0
  /-- a class never moves back -/
  forward : (policy.classify updatedAt now).rank ≤ (policy.classify updatedAt later).rank

/-- **What is served is within the hard limit, and what is refreshed is past the soft one**, whatever is in the cache
and however long that keeps it. Outside leap seconds the class of an entry never moves back. -/
theorem within_limits (hlimits : policy.soft ≤ policy.hard)
    (hrun : (start policy cache).run? server policy moves = some s) : WithinLimits server policy s ∧
    ∀ updatedAt now later : Time.Instant, updatedAt.Ordinary → now.Ordinary → later.Ordinary →
      later.before now = false → Ages policy updatedAt now later := by
  refine ⟨withinLimits_of_run hlimits hrun, fun updatedAt now later hupdated hnow hlater h => ?_⟩
  exact ⟨age_of_ordinary hupdated hnow, age_of_future hupdated hnow, rank_classify_le hupdated hnow hlater h⟩

/-- a moment that the calendar covers -/
def moment (seconds : Int) (nanos : Nat) : Time.Instant := (Time.Instant.ofParts? seconds nanos).getD .epoch

/-- an entry that the cache has kept for too long, one that is refreshed, and one that is still fresh -/
def overfull : Cache.Memory :=
  let inTheEvening := moment 86000 0
  let justNow := moment 86399 999999999
  ((Cache.Memory.empty.set 0 "ann" ⟨.start 1, .epoch⟩ 100).set 0 "bob" ⟨.start 2, inTheEvening⟩ 100).set 0 "eve"
    ⟨.start 3, justNow⟩ 100

/-- at midnight, when the store and GitHub are well -/
def atMidnight : Outside := ⟨moment 86400 0, 1, .ok oneRepository, .ok (), .ok oneRepository, .ok ()⟩

/-- entries are fresh for a minute, and served for an hour -/
def hourly : FreshnessPolicy := ⟨.ofSeconds 60, .ofSeconds 3600, .ofSeconds 30, 16⟩

/-- the three are looked up -/
def threeLookups : List Move :=
  [.enter "ann", .enter "bob", .enter "eve"] ++ List.replicate 7 (.call 0 atMidnight) ++
    List.replicate 4 (.call 1 atMidnight) ++ List.replicate 3 (.call 2 atMidnight)

theorem within_limits_midnight : ∃ s, (start hourly overfull).run? inProcess hourly threeLookups = some s ∧
    s.lookups.map (fun c => (callsOf c.past).length) = [2, 0, 0] ∧ s.refreshes.map Refresh.username = ["bob"] ∧
    hourly.soft ≤ hourly.hard ∧ WithinLimits inProcess hourly s ∧
    Ages hourly .epoch (.next .epoch) atMidnight.now := by
  have hrun : ((start hourly overfull).run? inProcess hourly threeLookups).map (fun s =>
      (s.lookups.map (fun c => (callsOf c.past).length), s.refreshes.map Refresh.username)) =
      some ([2, 0, 0], ["bob"]) := by
    decide +kernel
  obtain ⟨s, hs, hend⟩ := Option.map_eq_some_iff.1 hrun
  obtain ⟨hlookups, hrefreshes⟩ := Prod.mk.inj hend
  obtain ⟨hwithin, hages⟩ := within_limits (by decide : hourly.soft ≤ hourly.hard) hs
  exact ⟨s, hs, hlookups, hrefreshes, by decide, hwithin,
    hages _ _ _ (by decide) (by decide) (by decide) (by decide)⟩

/-! ## In a leap second -/

/-- noon, in a leap second -/
def leapNoon : Time.Instant := moment 45059 1200000000

/-- half a second before the midnight after that, and midnight -/
def lateEvening : Time.Instant := moment 86399 500000000
def midnight : Time.Instant := moment 86400 0

/-- late in the next morning, and in a leap second just after -/
def nextMorning : Time.Instant := moment 127739 900000000
def leapMorning : Time.Instant := moment 127739 1200000000

/-- entries are served for half a day, or not quite -/
def halfDaily : FreshnessPolicy := ⟨.ofSeconds 600, .ofSeconds 41340, .ofSeconds 30, 16⟩

/-- **In a leap second the class of an entry moves back**: an entry dated in one, at the next midnight; and any entry,
when the clock reads one at an earlier time of day than the entry was dated. -/
theorem leapSeconds_move_back : halfDaily.soft ≤ halfDaily.hard ∧
    (midnight.before lateEvening = false ∧ halfDaily.classify leapNoon lateEvening = .expired ∧
      halfDaily.classify leapNoon midnight = .stale) ∧
    (leapMorning.before nextMorning = false ∧ halfDaily.classify lateEvening nextMorning = .expired ∧
      halfDaily.classify lateEvening leapMorning = .stale) := by
  decide +kernel

end Service

end AccountStats.Sync
