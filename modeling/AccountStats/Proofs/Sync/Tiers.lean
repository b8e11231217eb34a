import Mathlib.Tactic
import AccountStats.Proofs.Sync.Failures
import AccountStats.Proofs.Sync.Synchronizing
import AccountStats.Proofs.Sync.WithoutCache
/-
The tiers of a look-up.

A look-up is told by its exchanges, and the replies in them may be any: an entry of any age, no entry or an error of the
cache, a snapshot or a failure of the store, and whatever becomes of a fetch, a save or a write. Results:
- `runs_pipeline`: the exchanges of a synchronization that succeeds;
- `lookupBehindCache_iff_behind`: what follows a read of the cache that has nothing to serve;
- `getEntry_iff_served`: the exchanges of a look-up are those of one of the tiers, and the result is that of the tier;
- `Served.comesTo`: the calls that a tier makes, and what it counts;
- `lookup_by_tiers`: all of it, and that every look-up ends so; `lookup_by_tiers_stale`: one that finds a stale entry.
-/
namespace AccountStats.Sync

open Program (Exchange Replied Runs exists_runs runs_ask runs_done)

variable {policy : FreshnessPolicy} {username : String} {ttl : Duration} {es : List (Exchange Calls)} {e : Entry}

/-! ## What is noted on the way -/

/-- what is noted of a save -/
def saveNotes (username : String) : Except Failure Unit → List (Exchange Calls)
  | .ok _ => []
  | .error f =>
    if f.kind = .nothingChanged then
      [⟨.note (.debug "Store already holds a newer snapshot" [("username", username)]), ()⟩]
    else [⟨.note (.warn "Failed to persist account snapshot" [("username", username), ("error", f.text)]), ()⟩]

/-- what is noted of a write to the cache -/
def writeNotes (username : String) : Except Cache.CacheError Unit → List (Exchange Calls)
  | .ok _ => []
  | .error err => [⟨.note (.warn "Failed to cache stats" [("username", username), ("error", err.text)]), ()⟩]

theorem runs_noteSave {saved : Except Failure Unit} :
    Runs (noteSave username saved) es () ↔ es = saveNotes username saved := by
  cases saved with
  | ok _ => exact runs_done.trans (and_iff_left rfl)
  | error f =>
    rw [noteSave, saveNotes]
    split <;> exact runs_note

theorem runs_storeInCache_iff : Runs (storeInCache username e ttl) es () ↔
    ∃ written, es = ⟨.cacheSet username e ttl, written⟩ :: writeNotes username written := by
  have hnotes : ∀ {written rest}, Runs (noteWrite username written) rest () ↔ rest = writeNotes username written := by
    intro written rest
    cases written with
    | ok _ => exact runs_done.trans (and_iff_left rfl)
    | error err => exact runs_note
  rw [storeInCache_eq]
  constructor
  · intro h
    obtain ⟨written, rest, rfl, hrest⟩ := runs_ask.1 h
    exact ⟨written, by rw [hnotes.1 hrest]⟩
  · rintro ⟨written, rfl⟩
    exact .ask (hnotes.2 rfl)

/-! ## Synchronizing -/

/-- a synchronization that has succeeded -/
def synchronization (username : String) (ttl : Duration) (snapshot : Snapshot) (saved : Except Failure Unit)
    (now : Time.Instant) (written : Except Cache.CacheError Unit) : List (Exchange Calls) :=
  ⟨.fetch username, .ok snapshot⟩ :: ⟨.save snapshot, saved⟩ :: (saveNotes username saved ++ ⟨.now, now⟩ ::
    ⟨.cacheSet username ⟨Stats.ofRepositories snapshot.repositories, now⟩ ttl, written⟩ :: writeNotes username written)

/-- a program that caches an entry and is done has asked for the write, and noted it if it has failed -/
theorem runs_caching {result : Except Failure Entry} :
    Runs (storeInCache username e ttl >>= fun _ => (.done (.ok e) : Program Calls (Except Failure Entry))) es result ↔
      result = .ok e ∧ ∃ written, es = ⟨.cacheSet username e ttl, written⟩ :: writeNotes username written := by
  constructor
  · intro h
    obtain ⟨es₁, es₂, ⟨⟩, rfl, hcached, hdone⟩ := Runs.split (p := storeInCache username e ttl) h
    obtain ⟨rfl, rfl⟩ := runs_done.1 hdone
    rw [List.append_nil]
    exact ⟨rfl, runs_storeInCache_iff.1 hcached⟩
  · rintro ⟨rfl, hwritten⟩
    rw [← List.append_nil es]
    exact (runs_storeInCache_iff.2 hwritten).append (.done _)

/-- **A synchronization that succeeds**: the snapshot that was fetched is saved, and its statistics are cached and
returned, whatever is replied to the save and to the write. -/
theorem runs_pipeline : Runs (pipeline username ttl) es (.ok e) ↔ ∃ snapshot saved now written,
    e = ⟨Stats.ofRepositories snapshot.repositories, now⟩ ∧
      es = synchronization username ttl snapshot saved now written := by
  constructor
  · intro h
    obtain ⟨fetched, rest, rfl, hfetched⟩ := runs_ask.1 h
    cases fetched with
    | error f => cases (runs_done.1 hfetched).2
    | ok snapshot =>
      obtain ⟨saved, rest, rfl, hsaved⟩ := runs_ask.1 hfetched
      obtain ⟨before, rest, ⟨⟩, rfl, hbefore, htime⟩ := Runs.split (p := noteSave username saved) hsaved
      obtain ⟨now, rest, rfl, hnow⟩ := runs_ask.1 htime
      obtain ⟨hentry, written, rfl⟩ := runs_caching.1 hnow
      rw [runs_noteSave.1 hbefore]
      exact ⟨snapshot, saved, now, written, Except.ok.inj hentry, rfl⟩
  · rintro ⟨snapshot, saved, now, written, rfl, rfl⟩
    exact .ask (.ask ((runs_noteSave.2 rfl).append (.ask (runs_caching.2 ⟨rfl, written, rfl⟩))))

/-! ## Tiers -/

/-- where the answer to a look-up comes from: a fresh or a stale entry of the cache, the store, or GitHub, which may
also fail -/
inductive Tier where
  | fresh (e : Entry)
  | stale (e : Entry)
  | stored (e : Entry)
  | fetched (snapshot : Snapshot) (e : Entry)
  | failed (f : Failure)

namespace Tier

def result : Tier → Except Failure Entry
  | .fresh e | .stale e | .stored e | .fetched _ e => .ok e
  | .failed f => .error f

/-- the counter that counts a look-up -/
def counter : Tier → Counter
  | .fresh _ => ⟨"stats_cache_lookups_total", [("outcome", "fresh")]⟩
  | .stale _ => ⟨"stats_cache_lookups_total", [("outcome", "stale")]⟩
  | .stored _ | .fetched _ _ | .failed _ => ⟨"stats_cache_lookups_total", [("outcome", "miss")]⟩

/-- the calls of the store, of GitHub and of the cache, but for its read -/
def calls (policy : FreshnessPolicy) (username : String) : Tier → List Ask
  | .fresh _ | .stale _ => []
  | .stored e => [.readStored username, .cacheSet username e policy.hard]
  | .fetched snapshot e =>
    [.readStored username, .fetch username, .save snapshot, .cacheSet username e policy.hard]
  | .failed _ => [.readStored username, .fetch username]

end Tier

/-- a miss is counted -/
def countedMiss : Exchange Calls := ⟨.note (.count (lookupCounter "miss") 1), ()⟩

/-- what follows the read of the cache when it has nothing to serve -/
inductive Behind (policy : FreshnessPolicy) (username : String) : Tier → List (Exchange Calls) → Prop where
  | stored {snapshot : Snapshot} {now : Time.Instant} (written : Except Cache.CacheError Unit) :
      Behind policy username (.stored ⟨Stats.ofRepositories snapshot.repositories, now⟩)
        (countedMiss :: ⟨.readStored username, .ok snapshot⟩ :: ⟨.now, now⟩ ::
          ⟨.cacheSet username ⟨Stats.ofRepositories snapshot.repositories, now⟩ policy.hard, written⟩ ::
          writeNotes username written)
  | fetched {snapshot : Snapshot} {e : Entry} {rest : List (Exchange Calls)} (stored : Failure) :
      Runs (pipeline username policy.hard) (⟨.fetch username, .ok snapshot⟩ :: rest) (.ok e) →
      Behind policy username (.fetched snapshot e)
        (countedMiss :: ⟨.readStored username, .error stored⟩ :: (readFailureNotes username stored ++
          (⟨.fetch username, .ok snapshot⟩ :: rest ++
            [⟨.note (.info "Stats recalculated from GitHub" [("username", username)]), ()⟩])))
  | failed {f : Failure} {pipelined : List (Exchange Calls)} (stored : Failure) :
      Runs (pipeline username policy.hard) pipelined (.error f) →
      Behind policy username (.failed f)
        (countedMiss :: ⟨.readStored username, .error stored⟩ :: (readFailureNotes username stored ++ pipelined))

/-- the exchanges of a look-up, by the tier that serves it -/
inductive Served (policy : FreshnessPolicy) (username : String) : Tier → List (Exchange Calls) → Prop where
  | fresh {e : Entry} {now : Time.Instant} : policy.classify e.updatedAt now = .fresh →
      Served policy username (.fresh e)
        [⟨.cacheGet username, .ok (some e)⟩, ⟨.now, now⟩, ⟨.note (.count (lookupCounter "fresh") 1), ()⟩]
  | stale {e : Entry} {now : Time.Instant} (granted : Bool) : policy.classify e.updatedAt now = .stale →
      Served policy username (.stale e)
        (staleHit username e now ++ ⟨.startRefresh username, granted⟩ :: skipNotes username granted)
  | behind {tier : Tier} {missed rest : List (Exchange Calls)} : Missed policy username missed →
      Behind policy username tier rest → Served policy username tier (missed ++ rest)

variable {result : Except Failure Entry}

theorem runs_syncNow_ok : Runs (syncNow policy username) es (.ok e) ↔ ∃ pipelined,
    Runs (pipeline username policy.hard) pipelined (.ok e) ∧
      es = pipelined ++ [⟨.note (.info "Stats recalculated from GitHub" [("username", username)]), ()⟩] := by
  constructor
  · intro h
    obtain ⟨pipelined, es₂, result, rfl, hpipeline, hrest⟩ := Runs.split (p := pipeline username policy.hard) h
    cases result with
    | error f => cases (runs_done.1 hrest).2
    | ok e' =>
      obtain ⟨_, rest, rfl, hdone⟩ := runs_ask.1 hrest
      obtain ⟨rfl, ⟨⟩⟩ := runs_done.1 hdone
      exact ⟨pipelined, hpipeline, rfl⟩
  · rintro ⟨pipelined, hpipeline, rfl⟩
    exact hpipeline.append (.ask (.done _))

/-- **Behind the cache** there is the store, and behind the store GitHub. -/
theorem lookupBehindCache_iff_behind : Runs (lookupBehindCache policy username) es result ↔
    ∃ tier, Behind policy username tier es ∧ result = tier.result := by
  constructor
  · intro h
    obtain ⟨_, rest, rfl, hread⟩ := runs_ask.1 h
    obtain ⟨stored, rest, rfl, hrest⟩ := runs_ask.1 hread
    cases stored with
    | ok snapshot =>
      obtain ⟨now, rest, rfl, hcached⟩ := runs_ask.1 hrest
      obtain ⟨rfl, written, rfl⟩ := runs_caching.1 hcached
      exact ⟨_, .stored written, rfl⟩
    | error stored =>
      obtain ⟨notes, synced, ⟨⟩, rfl, hnotes, hsync⟩ := Runs.split (p := noteReadFailure username stored) hrest
      rw [runs_noteReadFailure.1 hnotes]
      cases result with
      | error f =>
        rw [syncNow_error] at hsync
        subst hsync
        exact ⟨.failed f, .failed stored (pipeline_error.2 rfl), rfl⟩
      | ok e =>
        obtain ⟨pipelined, hpipeline, rfl⟩ := runs_syncNow_ok.1 hsync
        obtain ⟨snapshot, saved, now, written, rfl, rfl⟩ := runs_pipeline.1 hpipeline
        exact ⟨.fetched snapshot _, .fetched stored hpipeline, rfl⟩
  · rintro ⟨tier, hbehind, rfl⟩
    cases hbehind with
    | stored written => exact .ask (.ask (.ask (runs_caching.2 ⟨rfl, written, rfl⟩)))
    | fetched stored hpipeline =>
      exact .ask (.ask ((runs_noteReadFailure.2 rfl).append (runs_syncNow_ok.2 ⟨_, hpipeline, rfl⟩)))
    | failed stored hpipeline =>
      exact .ask (.ask ((runs_noteReadFailure.2 rfl).append (syncNow_error.2 (pipeline_error.1 hpipeline))))

/-- **A look-up has the exchanges of one of the tiers, and its result**; and all exchanges of a tier are had by a
look-up. -/
theorem getEntry_iff_served : Runs (getEntry policy username) es result ↔
    ∃ tier, Served policy username tier es ∧ result = tier.result := by
  rw [getEntry_eq]
  constructor
  · intro h
    obtain ⟨x, rest, rfl, hrest⟩ := runs_ask.1 h
    -- the cache has nothing to serve in three ways, and from there on all is the same
    have behind {missed rest : List (Exchange Calls)} (hmissed : Missed policy username missed)
        (hbehind : Runs (lookupBehindCache policy username) rest result) :
        ∃ tier, Served policy username tier (missed ++ rest) ∧ result = tier.result := by
      obtain ⟨tier, htier, hresult⟩ := lookupBehindCache_iff_behind.1 hbehind
      exact ⟨tier, .behind hmissed htier, hresult⟩
    cases x with
    | error err =>
      obtain ⟨_, rest, rfl, hbehind⟩ := runs_ask.1 hrest
      exact behind (.failed err) hbehind
    | ok entry? =>
      cases entry? with
      | none => exact behind .nothing hrest
      | some e =>
        obtain ⟨now, rest, rfl, hage⟩ := runs_ask.1 hrest
        cases hclass : policy.classify e.updatedAt now with
        | fresh =>
          rw [hclass] at hage
          obtain ⟨_, rest, rfl, hdone⟩ := runs_ask.1 hage
          obtain ⟨rfl, rfl⟩ := runs_done.1 hdone
          exact ⟨.fresh e, .fresh hclass, rfl⟩
        | stale =>
          rw [hclass] at hage
          obtain ⟨_, rest, rfl, hstart⟩ := runs_ask.1 hage
          obtain ⟨granted, rfl, rfl⟩ := runs_afterStaleHit.1 hstart
          exact ⟨.stale e, .stale granted hclass, rfl⟩
        | expired =>
          rw [hclass] at hage
          obtain ⟨_, rest, rfl, hbehind⟩ := runs_ask.1 hage
          exact behind (.expired e now hclass) hbehind
  · rintro ⟨tier, hserved, rfl⟩
    cases hserved with
    | fresh hclass =>
      refine .ask (.ask ?_)
      rw [hclass]
      exact .ask (.done _)
    | stale granted hclass =>
      refine .ask (.ask ?_)
      rw [hclass]
      exact .ask (runs_afterStaleHit.2 ⟨granted, rfl, rfl⟩)
    | behind hmissed htier =>
      have hbehind := lookupBehindCache_iff_behind.2 ⟨tier, htier, rfl⟩
      cases hmissed with
      | nothing => exact .ask hbehind
      | failed err => exact .ask (.ask hbehind)
      | expired e now hclass =>
        refine .ask (.ask ?_)
        rw [hclass]
        exact .ask hbehind

/-! ## What a tier calls and counts -/

/-- a request that changes something or asks for an account: not of the clock, nor to read the cache, nor about places
for refreshes, nor to note something -/
def Ask.call? : Ask → Option Ask
  | .now | .cacheGet _ | .startRefresh _ | .endRefresh | .note _ => none
  | r => some r

def Ask.count? : Ask → Option (Counter × Nat)
  | .note (.count c n) => some (c, n)
  | _ => none

/-- the calls that were made, in order -/
def callsOf (es : List (Exchange Calls)) : List Ask := (requestsOf es).filterMap Ask.call?

/-- what was counted, and by how much -/
def countsOf (es : List (Exchange Calls)) : List (Counter × Nat) := (requestsOf es).filterMap Ask.count?

/-- what some exchanges come to -/
structure ComesTo (es : List (Exchange Calls)) (calls : List Ask) (counts : List (Counter × Nat)) : Prop where
  calls : callsOf es = calls
  counts : countsOf es = counts

theorem ComesTo.append {es₁ es₂ : List (Exchange Calls)} {calls₁ calls₂ : List Ask}
    {counts₁ counts₂ : List (Counter × Nat)} (h₁ : ComesTo es₁ calls₁ counts₁)
    (h₂ : ComesTo es₂ calls₂ counts₂) :
    ComesTo (es₁ ++ es₂) (calls₁ ++ calls₂) (counts₁ ++ counts₂) := by
  obtain ⟨rfl, rfl⟩ := h₁
  obtain ⟨rfl, rfl⟩ := h₂
  constructor
  · rw [callsOf, requestsOf, List.map_append, List.filterMap_append]
    rfl
  · rw [countsOf, requestsOf, List.map_append, List.filterMap_append]
    rfl

/-- exchanges that are neither calls nor counted -/
abbrev Aside (es : List (Exchange Calls)) : Prop := ComesTo es [] []

theorem aside_nil : Aside [] := ⟨rfl, rfl⟩

theorem aside_log (event : LogEvent) : Aside [⟨.note (.log event), ()⟩] := ⟨rfl, rfl⟩

theorem aside_saveNotes (saved : Except Failure Unit) : Aside (saveNotes username saved) := by
  cases saved with
  | ok _ => exact aside_nil
  | error f =>
    rw [saveNotes]
    split <;> exact aside_log _

theorem aside_writeNotes (written : Except Cache.CacheError Unit) : Aside (writeNotes username written) := by
  cases written with
  | ok _ => exact aside_nil
  | error err => exact aside_log _

theorem aside_readFailureNotes (f : Failure) : Aside (readFailureNotes username f) := by
  rw [readFailureNotes]
  split <;> exact aside_log _

theorem Missed.aside {missed : List (Exchange Calls)} (h : Missed policy username missed) : Aside missed := by
  cases h with
  | nothing => exact ⟨rfl, rfl⟩
  | failed err => exact ⟨rfl, rfl⟩
  | expired e now hclass => exact ⟨rfl, rfl⟩

/-- a synchronization saves what it has fetched and caches what it returns -/
theorem comesTo_pipeline {snapshot : Snapshot} {rest : List (Exchange Calls)}
    (h : Runs (pipeline username ttl) (⟨.fetch username, .ok snapshot⟩ :: rest) (.ok e)) :
    ComesTo (⟨.fetch username, .ok snapshot⟩ :: rest)
      [.fetch username, .save snapshot, .cacheSet username e ttl] [] := by
  obtain ⟨snapshot', saved, now, written, rfl, heq⟩ := runs_pipeline.1 h
  -- the fetch stands first in both lists, so the snapshot is the one that was fetched
  have hsnapshot : snapshot = snapshot' := by
    injection heq with hfetch _
    cases hfetch
    rfl
  subst hsnapshot
  rw [heq]
  have hsave : ComesTo [⟨.fetch username, .ok snapshot⟩, ⟨.save snapshot, saved⟩]
      [.fetch username, .save snapshot] [] := ⟨rfl, rfl⟩
  have hset : ComesTo [⟨.now, now⟩,
      ⟨.cacheSet username ⟨Stats.ofRepositories snapshot.repositories, now⟩ ttl, written⟩]
      [.cacheSet username ⟨Stats.ofRepositories snapshot.repositories, now⟩ ttl] [] := ⟨rfl, rfl⟩
  exact hsave.append ((aside_saveNotes saved).append (hset.append (aside_writeNotes written)))

theorem Behind.comesTo {tier : Tier} (h : Behind policy username tier es) :
    ComesTo es (tier.calls policy username) [(tier.counter, 1)] := by
  cases h with
  | @stored snapshot now written =>
    have hstored : ComesTo [countedMiss, ⟨.readStored username, .ok snapshot⟩, ⟨.now, now⟩,
        ⟨.cacheSet username ⟨Stats.ofRepositories snapshot.repositories, now⟩ policy.hard, written⟩]
        [.readStored username, .cacheSet username ⟨Stats.ofRepositories snapshot.repositories, now⟩ policy.hard]
        [(Tier.counter (.stored ⟨Stats.ofRepositories snapshot.repositories, now⟩), 1)] := ⟨rfl, rfl⟩
    exact hstored.append (aside_writeNotes written)
  | @fetched snapshot e rest stored hpipeline =>
    have hread : ComesTo [countedMiss, ⟨.readStored username, .error stored⟩] [.readStored username]
        [((Tier.fetched snapshot e).counter, 1)] := ⟨rfl, rfl⟩
    exact hread.append ((aside_readFailureNotes stored).append ((comesTo_pipeline hpipeline).append (aside_log _)))
  | @failed f pipelined stored hpipeline =>
    have hread : ComesTo [countedMiss, ⟨.readStored username, .error stored⟩] [.readStored username]
        [((Tier.failed f).counter, 1)] := ⟨rfl, rfl⟩
    obtain rfl := pipeline_error.1 hpipeline
    exact hread.append ((aside_readFailureNotes stored).append ⟨rfl, rfl⟩)

/-- **A tier makes its calls and no others**, and counts its outcome once. -/
theorem Served.comesTo {tier : Tier} (h : Served policy username tier es) :
    ComesTo es (tier.calls policy username) [(tier.counter, 1)] := by
  cases h with
  | fresh hclass => exact ⟨rfl, rfl⟩
  | stale granted hclass => cases granted <;> exact ⟨rfl, rfl⟩
  | behind hmissed hbehind => exact hmissed.aside.append hbehind.comesTo

/-- **A look-up is served by one of four tiers**, whatever it is replied. Its exchanges are just those of the tier that
serves it. A fresh or a stale entry of the cache is returned as it was found, and no other call is made; otherwise the
store is read once. What is stored is aggregated, cached for the hard limit and returned; if the store has failed, the
account is synchronized once, with the hard limit, and what that comes to is returned. One outcome is counted, once. -/
theorem lookup_by_tiers (policy : FreshnessPolicy) (username : String) :
    (∀ es result, Runs (getEntry policy username) es result ↔
      ∃ tier : Tier, Served policy username tier es ∧ result = tier.result ∧
        callsOf es = tier.calls policy username ∧ countsOf es = [(tier.counter, 1)]) ∧
    ∀ (σ : Type) (answer : (r : Ask) → σ → r.Reply × σ) (s : σ), ∃ es, ∃ tier : Tier,
      Served policy username tier es ∧ Replied answer s es ((getEntry policy username).run answer s).2 ∧
        ((getEntry policy username).run answer s).1 = tier.result := by
  constructor
  · intro es result
    rw [getEntry_iff_served]
    constructor
    · rintro ⟨tier, hserved, hresult⟩
      exact ⟨tier, hserved, hresult, hserved.comesTo.calls, hserved.comesTo.counts⟩
    · rintro ⟨tier, hserved, hresult, -, -⟩
      exact ⟨tier, hserved, hresult⟩
  · intro σ answer s
    obtain ⟨es, hruns, hreplied⟩ := exists_runs answer (getEntry policy username) s
    obtain ⟨tier, hserved, hresult⟩ := getEntry_iff_served.1 hruns
    exact ⟨es, tier, hserved, hreplied, hresult⟩

/-- an entry of ann that was computed at the beginning of time, and a quarter of an hour later -/
def annCached : Entry := ⟨.ofRepositories [⟨1, "ann", none, none, some "Rust", 5, false, 2⟩], .epoch⟩
def quarterPast : Time.Instant := (Time.Instant.ofSeconds? 900).getD .epoch

/-- the entry is stale, and there is no place for a refresh -/
def annStale : List (Exchange Calls) :=
  [⟨.cacheGet "ann", .ok (some annCached)⟩, ⟨.now, quarterPast⟩,
    ⟨.note (.count ⟨"stats_cache_lookups_total", [("outcome", "stale")]⟩ 1), ()⟩, ⟨.startRefresh "ann", false⟩,
    ⟨.note (.debug "Background refresh skipped: limit reached" [("username", "ann")]), ()⟩]

theorem lookup_by_tiers_stale : Runs (getEntry .standard "ann") annStale (.ok annCached) ∧ callsOf annStale = [] ∧
    countsOf annStale = [(⟨"stats_cache_lookups_total", [("outcome", "stale")]⟩, 1)] := by
  have hstale : Served .standard "ann" (.stale annCached) annStale := .stale false (by decide)
  obtain ⟨hcalls, hcounts⟩ := hstale.comesTo
  exact ⟨((lookup_by_tiers .standard "ann").1 annStale _).2 ⟨.stale annCached, hstale, rfl, hcalls, hcounts⟩, hcalls,
    hcounts⟩

end AccountStats.Sync
