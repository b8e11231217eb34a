import Mathlib.Tactic
import AccountStats.Proofs.Sync.Tiers
/-
One order of effects for all that synchronize an account.

An account is synchronized because it was asked for, by a sweep, by a look-up that neither the cache nor the store could
serve, or in the background; these differ in how long the entry is cached, in what they return, and in what they note.
What they do to GitHub, the store and the cache is the same. Results:
- `runs_pipeline_iff`: the exchanges of a synchronization, failed or not;
- `synchronized_of_runs`: a caller is an opening, a synchronization and a closing, unless it is a look-up that has been
  served otherwise;
- `one_effect_order`: which effects a caller has, in which order and on what, and what it comes to.
-/
namespace AccountStats.Sync

open Program (Exchange Replied Runs exists_runs runs_ask runs_done)

variable {policy : FreshnessPolicy} {username : String} {ttl : Duration} {es : List (Exchange Calls)}
  {outcome : Except Failure Entry}

/-! ## Effects and warnings -/

/-- a request that fetches an account or changes something: not of the clock, nor a read of the cache or the store, nor
about places for refreshes, nor to note something -/
def Ask.isEffect : Ask → Bool
  | .fetch _ | .save _ | .cacheSet .. | .cacheDelete _ | .publish _ => true
  | .now | .cacheGet _ | .readStored _ | .startRefresh _ | .endRefresh | .note _ => false

/-- the effects among some exchanges, with what was replied to them, in order -/
def effectsOf (es : List (Exchange Calls)) : List (Exchange Calls) := es.filter fun e => e.request.isEffect

/-- the warnings among some exchanges -/
def warningsOf (es : List (Exchange Calls)) : List LogEvent := (journal (requestsOf es)).events [.warn]

theorem effectsOf_append (es fs : List (Exchange Calls)) : effectsOf (es ++ fs) = effectsOf es ++ effectsOf fs :=
  List.filter_append ..

theorem effectsOf_saveNotes (saved : Except Failure Unit) : effectsOf (saveNotes username saved) = [] := by
  cases saved with
  | ok _ => rfl
  | error f =>
    rw [saveNotes]
    split <;> rfl

theorem effectsOf_writeNotes (written : Except Cache.CacheError Unit) :
    effectsOf (writeNotes username written) = [] := by
  cases written <;> rfl

theorem effectsOf_readFailureNotes (f : Failure) : effectsOf (readFailureNotes username f) = [] := by
  rw [readFailureNotes]
  split <;> rfl

theorem Missed.effectsOf {missed : List (Exchange Calls)} (h : Missed policy username missed) :
    effectsOf missed = [] := by
  cases h <;> rfl

/-! ## Synchronizations -/

/-- a synchronization, failed or not -/
inductive Synchronized (username : String) (ttl : Duration) : List (Exchange Calls) → Except Failure Entry → Prop where
  | failed (f : Failure) : Synchronized username ttl [⟨.fetch username, .error f⟩] (.error f)
  | succeeded (snapshot : Snapshot) (saved : Except Failure Unit) (now : Time.Instant)
      (written : Except Cache.CacheError Unit) :
      Synchronized username ttl (synchronization username ttl snapshot saved now written)
        (.ok ⟨Stats.ofRepositories snapshot.repositories, now⟩)

theorem effectsOf_synchronization (snapshot : Snapshot) (saved : Except Failure Unit) (now : Time.Instant)
    (written : Except Cache.CacheError Unit) :
    effectsOf (synchronization username ttl snapshot saved now written) =
      [⟨.fetch username, .ok snapshot⟩, ⟨.save snapshot, saved⟩,
        ⟨.cacheSet username ⟨Stats.ofRepositories snapshot.repositories, now⟩ ttl, written⟩] := by
  let wrote : Exchange Calls := ⟨.cacheSet username ⟨Stats.ofRepositories snapshot.repositories, now⟩ ttl, written⟩
  have hsaved : effectsOf (saveNotes username saved ++ ⟨.now, now⟩ :: wrote :: writeNotes username written) =
      wrote :: effectsOf (writeNotes username written) := by
    rw [effectsOf_append, effectsOf_saveNotes]
    rfl
  rw [effectsOf_writeNotes] at hsaved
  exact congrArg (fun rest => ⟨.fetch username, .ok snapshot⟩ :: ⟨.save snapshot, saved⟩ :: rest) hsaved

theorem runs_pipeline_iff : Runs (pipeline username ttl) es outcome ↔ Synchronized username ttl es outcome := by
  constructor
  · intro h
    cases outcome with
    | error f =>
      rw [pipeline_error.1 h]
      exact .failed f
    | ok e =>
      obtain ⟨snapshot, saved, now, written, rfl, rfl⟩ := runs_pipeline.1 h
      exact .succeeded snapshot saved now written
  · rintro (f | ⟨snapshot, saved, now, written⟩)
    · exact pipeline_error.2 rfl
    · exact runs_pipeline.2 ⟨snapshot, saved, now, written, rfl, rfl⟩

/-- a synchronization that is followed by what depends on its outcome -/
theorem runs_pipeline_bind {α : Type} {next : Except Failure Entry → Program Calls α} {a : α} :
    Runs (pipeline username ttl >>= next) es a ↔ ∃ pipelined rest outcome, es = pipelined ++ rest ∧
      Synchronized username ttl pipelined outcome ∧ Runs (next outcome) rest a := by
  constructor
  · intro h
    obtain ⟨pipelined, rest, outcome, rfl, hpipeline, hrest⟩ := Runs.split (p := pipeline username ttl) h
    exact ⟨pipelined, rest, outcome, rfl, runs_pipeline_iff.1 hpipeline, hrest⟩
  · rintro ⟨pipelined, rest, outcome, rfl, hsynchronized, hrest⟩
    exact (runs_pipeline_iff.2 hsynchronized).append hrest

/-! ## Callers -/

/-- what synchronizes an account: being asked to, a sweep, a look-up, and a refresh in the background that is not cut
short -/
inductive Caller where
  | recalculation
  | sweep (ttl : Duration)
  | lookup
  | refresh

namespace Caller

abbrev Result : Caller → Type
  | .recalculation => Except Failure Stats
  | .sweep _ => Except Failure Unit
  | .lookup => Except Failure Entry
  | .refresh => Unit

def program (policy : FreshnessPolicy) (username : String) : (c : Caller) → Program Calls c.Result
  | .recalculation => recalculate policy username
  | .sweep ttl => resync username ttl
  | .lookup => getEntry policy username
  | .refresh => Sync.refresh policy username

/-- how long the cache is to keep the entry -/
def lifetime (policy : FreshnessPolicy) : Caller → Duration
  | .sweep ttl => ttl
  | .recalculation | .lookup | .refresh => policy.hard

/-- what a caller makes of the outcome of the synchronization -/
def result (outcome : Except Failure Entry) : (c : Caller) → c.Result
  | .recalculation => outcome.map Entry.stats
  | .sweep _ => outcome.map fun _ => ()
  | .lookup => outcome
  | .refresh => ()

/-- what is noted of an entry that was computed because it was asked for -/
def recalculated (username : String) : Except Failure Entry → List (Exchange Calls)
  | .ok _ => [⟨.note (.info "Stats recalculated from GitHub" [("username", username)]), ()⟩]
  | .error _ => []

/-- what a caller still does when the synchronization has come to an outcome; a refresh, which returns nothing, tells
its error here -/
def closing (username : String) (outcome : Except Failure Entry) : Caller → List (Exchange Calls)
  | .recalculation | .lookup => recalculated username outcome
  | .sweep _ => []
  | .refresh =>
    match outcome with
    | .ok _ =>
      [⟨.note (.debug "Background refresh complete" [("username", username)]), ()⟩, ⟨.endRefresh, ()⟩]
    | .error f =>
      [⟨.note (.warn "Background refresh failed" [("username", username), ("error", f.text)]), ()⟩, ⟨.endRefresh, ()⟩]

/-- what a caller has done before: a look-up has asked the cache and the store, in vain -/
inductive Opening (policy : FreshnessPolicy) (username : String) : Caller → List (Exchange Calls) → Prop where
  | recalculation : Opening policy username .recalculation []
  | sweep (ttl : Duration) : Opening policy username (.sweep ttl) []
  | lookup {missed : List (Exchange Calls)} (stored : Failure) : Missed policy username missed →
      Opening policy username .lookup
        (missed ++ countedMiss :: ⟨.readStored username, .error stored⟩ :: readFailureNotes username stored)
  | refresh : Opening policy username .refresh []

/-- the store has been asked for an account and has failed, or has none -/
def storeFails : Exchange Calls → Bool
  | ⟨.readStored _, .error _⟩ => true
  | _ => false

/-- a caller comes to synchronize the account: a look-up, if the store has given it no snapshot; the others, always -/
def Synchronizes (c : Caller) (es : List (Exchange Calls)) : Prop := c = .lookup → es.any storeFails = true

variable {c : Caller}

theorem effectsOf_closing : effectsOf (c.closing username outcome) = [] := by
  cases c <;> cases outcome <;> rfl

theorem Opening.effectsOf {opening : List (Exchange Calls)} (h : Opening policy username c opening) :
    effectsOf opening = [] := by
  cases h with
  | recalculation => rfl
  | sweep _ => rfl
  | lookup stored hmissed =>
    rw [effectsOf_append, hmissed.effectsOf, List.nil_append]
    exact effectsOf_readFailureNotes stored
  | refresh => rfl

/-- a caller that synchronizes the account -/
inductive Synchronizing (policy : FreshnessPolicy) (username : String) (c : Caller) :
    List (Exchange Calls) → c.Result → Prop where
  | mk {opening pipelined : List (Exchange Calls)} {outcome : Except Failure Entry} :
      Opening policy username c opening → Synchronized username (c.lifetime policy) pipelined outcome →
      Synchronizing policy username c (opening ++ (pipelined ++ c.closing username outcome)) (c.result outcome)

end Caller

theorem runs_syncNow (h : Runs (syncNow policy username) es outcome) : ∃ pipelined,
    Synchronized username policy.hard pipelined outcome ∧ es = pipelined ++ Caller.recalculated username outcome := by
  obtain ⟨pipelined, rest, synced, rfl, hsynchronized, hrest⟩ := runs_pipeline_bind.1 h
  cases synced with
  | error f =>
    obtain ⟨rfl, rfl⟩ := runs_done.1 hrest
    exact ⟨pipelined, hsynchronized, rfl⟩
  | ok e =>
    obtain ⟨_, rest, rfl, hdone⟩ := runs_ask.1 hrest
    obtain ⟨rfl, rfl⟩ := runs_done.1 hdone
    exact ⟨pipelined, hsynchronized, rfl⟩

/-- a look-up that neither the cache nor the store has served is one that synchronizes the account; one of them has
served all others, and caches at most what was stored -/
theorem synchronizing_of_lookup {result : Except Failure Entry} (h : Runs (getEntry policy username) es result) :
    (es.any Caller.storeFails = true → Caller.lookup.Synchronizing policy username es result) ∧
      (es.any Caller.storeFails = false →
        ∀ x ∈ effectsOf es, ∃ e written, x = ⟨.cacheSet username e policy.hard, written⟩) := by
  obtain ⟨tier, hserved, rfl⟩ := getEntry_iff_served.1 h
  cases hserved with
  | fresh hclass => exact ⟨fun hfails => absurd hfails Bool.false_ne_true, fun _ x hx => absurd hx List.not_mem_nil⟩
  | stale granted hclass =>
    cases granted <;>
      exact ⟨fun hfails => absurd hfails Bool.false_ne_true, fun _ x hx => absurd hx List.not_mem_nil⟩
  | @behind tier missed rest hmissed hbehind =>
    have hasked : ∀ fs, (missed ++ fs).any Caller.storeFails = fs.any Caller.storeFails := by
      intro fs
      cases hmissed <;> rfl
    rw [hasked, effectsOf_append, hmissed.effectsOf, List.nil_append]
    cases hbehind with
    | @stored snapshot now written =>
      have heffects : effectsOf (countedMiss :: ⟨.readStored username, .ok snapshot⟩ :: ⟨.now, now⟩ ::
          ⟨.cacheSet username ⟨Stats.ofRepositories snapshot.repositories, now⟩ policy.hard, written⟩ ::
          writeNotes username written) =
          [⟨.cacheSet username ⟨Stats.ofRepositories snapshot.repositories, now⟩ policy.hard, written⟩] :=
        congrArg (List.cons _) (effectsOf_writeNotes written)
      constructor
      · intro hfails
        cases written <;> cases hfails
      · rintro - x hx
        rw [heffects, List.mem_singleton] at hx
        exact ⟨_, written, hx⟩
    | @fetched snapshot e rest stored hpipeline =>
      refine ⟨fun _ => ?_, nofun⟩
      have hsynchronizing := Caller.Synchronizing.mk (.lookup stored hmissed) (runs_pipeline_iff.1 hpipeline)
      rw [List.append_assoc] at hsynchronizing
      exact hsynchronizing
    | @failed f pipelined stored hpipeline =>
      refine ⟨fun _ => ?_, nofun⟩
      have hsynchronizing := Caller.Synchronizing.mk (.lookup stored hmissed) (runs_pipeline_iff.1 hpipeline)
      obtain rfl := pipeline_error.1 hpipeline
      rw [List.append_assoc] at hsynchronizing
      exact hsynchronizing

variable {c : Caller} {result : c.Result}

theorem synchronizing_of_runs (h : Runs (c.program policy username) es result) :
    (c.Synchronizes es → c.Synchronizing policy username es result) ∧
      (¬c.Synchronizes es → ∀ x ∈ effectsOf es, ∃ e written, x = ⟨.cacheSet username e policy.hard, written⟩) := by
  cases c with
  | recalculation =>
    obtain ⟨synced, rest, outcome, rfl, hsynced, hrest⟩ := Runs.split (p := syncNow policy username) h
    obtain ⟨pipelined, hsynchronized, rfl⟩ := runs_syncNow hsynced
    obtain ⟨rfl, rfl⟩ := runs_done.1 hrest
    rw [List.append_nil]
    exact ⟨fun _ => .mk .recalculation hsynchronized, fun hnot => absurd nofun hnot⟩
  | sweep ttl =>
    obtain ⟨pipelined, rest, outcome, rfl, hsynchronized, hrest⟩ := runs_pipeline_bind.1 h
    refine ⟨fun _ => ?_, fun hnot => absurd nofun hnot⟩
    cases outcome <;> obtain ⟨rfl, rfl⟩ := runs_done.1 hrest <;> exact .mk (.sweep ttl) hsynchronized
  | lookup =>
    obtain ⟨hsynchronizing, hserved⟩ := synchronizing_of_lookup h
    refine ⟨fun hcomes => hsynchronizing (hcomes rfl), fun hnot => hserved ?_⟩
    exact Bool.eq_false_iff.2 fun hfails => hnot fun _ => hfails
  | refresh =>
    obtain ⟨pipelined, rest, outcome, rfl, hsynchronized, hrest⟩ := runs_pipeline_bind.1 h
    refine ⟨fun _ => ?_, fun hnot => absurd nofun hnot⟩
    cases outcome with
    | ok e =>
      obtain ⟨_, rest, rfl, hended⟩ := runs_ask.1 hrest
      obtain ⟨_, rest, rfl, hdone⟩ := runs_ask.1 hended
      obtain ⟨rfl, -⟩ := runs_done.1 hdone
      exact .mk .refresh hsynchronized
    | error f =>
      obtain ⟨_, rest, rfl, hended⟩ := runs_ask.1 hrest
      obtain ⟨_, rest, rfl, hdone⟩ := runs_ask.1 hended
      obtain ⟨rfl, -⟩ := runs_done.1 hdone
      exact .mk .refresh hsynchronized

/-! ## One order -/

/-- how many warnings a save is worth: none if the store held something newer, one for all other errors -/
def saveWarnings : Except Failure Unit → Nat
  | .ok _ => 0
  | .error f => if f.kind = .nothingChanged then 0 else 1

theorem warningsOf_saveNotes (saved : Except Failure Unit) (now : Time.Instant) :
    (warningsOf (saveNotes username saved ++ [⟨.now, now⟩])).length = saveWarnings saved := by
  cases saved with
  | ok _ => rfl
  | error f =>
    rw [saveNotes, saveWarnings]
    split <;> rfl

/-- the write of the statistics of a snapshot, as computed at a moment -/
def Caller.writes (c : Caller) (policy : FreshnessPolicy) (username : String) (snapshot : Snapshot) (now : Time.Instant)
    (written : Except Cache.CacheError Unit) : Exchange Calls :=
  ⟨.cacheSet username ⟨Stats.ofRepositories snapshot.repositories, now⟩ (c.lifetime policy), written⟩

/-- the exchanges and the result of a caller that synchronizes an account, with its effects in order -/
inductive OneOrder (policy : FreshnessPolicy) (username : String) (c : Caller) (es : List (Exchange Calls)) :
    c.Result → Prop where
  /-- the fetch fails: it is the only effect, and its error is what the caller returns, or tells -/
  | failed (f : Failure) (before : List (Exchange Calls)) :
      effectsOf es = [⟨.fetch username, .error f⟩] →
      es = before ++ ⟨.fetch username, .error f⟩ :: c.closing username (.error f) →
      OneOrder policy username c es (c.result (.error f))
  /-- the fetch succeeds: what was fetched is saved and then its statistics are cached, whatever is replied to the save
  and to the write -/
  | succeeded (snapshot : Snapshot) (saved : Except Failure Unit) (now : Time.Instant)
      (written : Except Cache.CacheError Unit) (before between after : List (Exchange Calls)) :
      effectsOf es = [⟨.fetch username, .ok snapshot⟩, ⟨.save snapshot, saved⟩,
        c.writes policy username snapshot now written] →
      es = before ++ ⟨.fetch username, .ok snapshot⟩ :: ⟨.save snapshot, saved⟩ ::
        (between ++ c.writes policy username snapshot now written :: after) →
      (warningsOf between).length = saveWarnings saved →
      OneOrder policy username c es (c.result (.ok ⟨Stats.ofRepositories snapshot.repositories, now⟩))

theorem Caller.Synchronizing.oneOrder (h : c.Synchronizing policy username es result) :
    OneOrder policy username c es result := by
  cases h with
  | @mk opening pipelined outcome hopening hsynchronized =>
    have heffects : effectsOf (opening ++ (pipelined ++ c.closing username outcome)) = effectsOf pipelined := by
      rw [effectsOf_append, hopening.effectsOf, effectsOf_append, effectsOf_closing, List.append_nil, List.nil_append]
    cases hsynchronized with
    | failed f => exact .failed f opening heffects rfl
    | succeeded snapshot saved now written =>
      refine .succeeded snapshot saved now written opening (saveNotes username saved ++ [⟨.now, now⟩])
        (writeNotes username written ++
          c.closing username (.ok ⟨Stats.ofRepositories snapshot.repositories, now⟩)) ?_ ?_ ?_
      · exact heffects.trans (effectsOf_synchronization snapshot saved now written)
      · simp only [synchronization, Caller.writes, List.cons_append, List.append_assoc, List.nil_append]
      · exact warningsOf_saveNotes saved now

/-- **All that synchronize an account have their effects in one order**, whatever they are replied. An account is
fetched once. If that fails it is the only effect, and its error is returned, or told by a refresh; otherwise the
snapshot is saved once, as it was fetched, and after that its statistics are cached once, for as long as the caller has
it, and the caller succeeds. A save is warned of unless it has succeeded or the store held something newer. A look-up
that the cache or the store has served fetches and saves nothing, and every run ends. -/
theorem one_effect_order (policy : FreshnessPolicy) (username : String) (c : Caller) :
    (∀ es result, Runs (c.program policy username) es result →
      (c.Synchronizes es → OneOrder policy username c es result) ∧
        (¬c.Synchronizes es → ∀ x ∈ effectsOf es, ∃ e written, x = ⟨.cacheSet username e policy.hard, written⟩)) ∧
    ∀ (σ : Type) (answer : (r : Ask) → σ → r.Reply × σ) (s : σ), ∃ es,
      Runs (c.program policy username) es ((c.program policy username).run answer s).1 ∧
        Replied answer s es ((c.program policy username).run answer s).2 := by
  constructor
  · intro es result h
    obtain ⟨hsynchronizing, hserved⟩ := synchronizing_of_runs h
    exact ⟨fun hcomes => (hsynchronizing hcomes).oneOrder, hserved⟩
  · intro σ answer s
    exact exists_runs answer (c.program policy username) s

/-- an account with three repositories, one of them a fork, and what they come to -/
def ann : Snapshot :=
  .ofRepositories "ann" [⟨1, "ann", none, none, some "Rust", 5, false, 2⟩,
    ⟨2, "ann", none, none, some "C", 1, false, 0⟩, ⟨3, "ann", none, none, some "Zig", 3, true, 1⟩] .epoch

def annEntry : Entry :=
  ⟨⟨3, 2, 1, 6, 2, .ofList [("C", 1), ("Rust", 1)]⟩, .epoch⟩

theorem entry_ann : (⟨Stats.ofRepositories ann.repositories, .epoch⟩ : Entry) = annEntry := by decide

/-- the store knows nothing of the account at first, and something newer in the end; nothing can be cached -/
def annFallback : List (Exchange Calls) :=
  [⟨.cacheGet "ann", .ok none⟩, countedMiss, ⟨.readStored "ann", .error (.accountNotStored "ann")⟩,
    ⟨.note (.debug "Account not stored yet" [("username", "ann")]), ()⟩, ⟨.fetch "ann", .ok ann⟩,
    ⟨.save ann, .error (.newerSnapshotStored "ann" "1970-01-01T00:00:00Z")⟩,
    ⟨.note (.debug "Store already holds a newer snapshot" [("username", "ann")]), ()⟩, ⟨.now, .epoch⟩,
    ⟨.cacheSet "ann" annEntry FreshnessPolicy.standard.hard, .error (.connection "refused")⟩,
    ⟨.note (.warn "Failed to cache stats" [("username", "ann"), ("error", "Cache connection error: refused")]), ()⟩,
    ⟨.note (.info "Stats recalculated from GitHub" [("username", "ann")]), ()⟩]

theorem one_effect_order_fallback :
    Runs (Caller.lookup.program .standard "ann") annFallback (.ok annEntry) ∧
      Caller.lookup.Synchronizes annFallback ∧ OneOrder .standard "ann" .lookup annFallback (.ok annEntry) := by
  have hruns : Runs (Caller.lookup.program .standard "ann") annFallback (.ok annEntry) := by
    rw [annFallback, ← entry_ann]
    exact .ask (.ask (.ask (.ask (.ask (.ask (.ask (.ask (.ask (.ask (.ask (.done _)))))))))))
  have hcomes : Caller.lookup.Synchronizes annFallback := fun _ => rfl
  exact ⟨hruns, hcomes, ((one_effect_order .standard "ann" .lookup).1 annFallback _ hruns).1 hcomes⟩

end AccountStats.Sync
