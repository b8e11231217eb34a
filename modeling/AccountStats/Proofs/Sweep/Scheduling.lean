import Mathlib.Tactic
import AccountStats.Proofs.Sweep.Interleaved
import AccountStats.Proofs.Sync.Synchronizing
/-
That what a sweep comes to does not depend on its schedule.

A sweep that nobody cancels synchronizes each listed account once. If the accounts are different ones and GitHub replies
the same about each of them whenever it is asked, then who synchronizes which account, and when, does not matter: no two
synchronizations write under the same key. Results:
- `finished_perm`, `saves_perm`, `slot_of_fetched`, `slot_of_others`: what any such sweep comes to;
- `schedules_agree`: two of them, over the same cache, come to the same.
-/
namespace AccountStats.Sweep

open Interleaving (exchangesOf)
open Program (Exchange)
open State
open Sync (Calls Genuine Kept Partners Session Slotted Synced memoryServer requestsOf savesOf)

/-- a complete sweep over some accounts that nobody cancels, with the cache in the process: its settings, all that it
meets, the order of its steps, and how it ends -/
structure CompleteSweep (usernames : List String) (fetched : String → Except Failure Snapshot)
    (cache : Cache.Memory) where
  config : Config
  σ : Type
  partners : Partners σ
  atFirst : σ
  places : Sync.Background
  clock : Nat → Time.Instant
  ticks : Nat → Nat
  ops : List Op
  final : State Calls (Session σ Cache.Memory)
  fetches : ∀ u x, (partners.fetch u x).1 = fetched u
  run : (init (.ofConfig config (.ok usernames) Sync.resync) ⟨atFirst, places, cache, []⟩ false).run?
    (.ofConfig config (.ok usernames) Sync.resync) (Session.answer partners (memoryServer ticks) clock) ops = some final
  uncancelled : .cancel ∉ ops
  complete : final.ended = true

namespace CompleteSweep

variable {usernames : List String} {fetched : String → Except Failure Snapshot} {cache : Cache.Memory}

/-- how long entries live that the sweep caches -/
def ttl (x : CompleteSweep usernames fetched cache) : Duration := x.config.normalized.ttl

/-- what there is to do -/
def plan (x : CompleteSweep usernames fetched cache) : Plan Calls := .ofConfig x.config (.ok usernames) Sync.resync

/-- the history of a sweep: the requests of its synchronizations, each of which has come to its end -/
structure History (x : CompleteSweep usernames fetched cache) (history : List (Occurrence Calls)) : Prop where
  asked : x.final.world.asked = (history.map fun o => o.exchange.request).reverse
  genuine : ∀ o ∈ history, Genuine fetched x.clock o.exchange
  slotted : Slotted cache x.ticks x.final.world
  program : ∀ o ∈ history, o.program ∈ (jobsOf usernames).map Job.place
  synced : ∀ r ∈ x.final.finished, Synced r.job.username x.ttl (exchangesOf history r.job.place) r.outcome

/-- what becomes of each account -/
def reports (usernames : List String) (fetched : String → Except Failure Snapshot) : List Report :=
  (jobsOf usernames).map fun job => ⟨job, (fetched job.username).map fun _ => ()⟩

variable (x : CompleteSweep usernames fetched cache)

theorem orderly : Orderly x.plan x.final := orderly_of_run x.run

theorem accounts : Accounts x.plan x.final := accounts_of_run x.run

/-- the streams are closed, and the consumer has taken all that was sent on them -/
theorem taken : x.final.closed = true ∧ x.final.takenRefreshed = x.final.sentRefreshed ∧
    x.final.takenProblems = x.final.sentProblems := by
  have hended := x.complete
  rw [ended, Bool.and_eq_true] at hended
  obtain ⟨hclosed, hrefreshed⟩ := taken_of_endedRefreshed x.orderly hended.1
  exact ⟨hclosed, hrefreshed, (taken_of_endedProblems x.orderly hended.2).2⟩

theorem begun : x.final.begun = jobsOf usernames :=
  begun_of_closed x.config.concurrency_normalized_pos x.orderly
    (whole_of_run x.config.concurrency_normalized_pos x.uncancelled x.run) x.taken.1

theorem finished_job_perm : (x.final.finished.map Report.job).Perm (jobsOf usernames) :=
  x.begun ▸ (sent_of_closed x.orderly x.accounts x.taken.1).1.symm

/-! ## Its history -/

theorem exists_history : ∃ history, x.History history := by
  obtain ⟨moments, m, hm, hreflects⟩ := reflects_of_run x.run
  have hasks : ∀ p ∈ x.plan.programs, p.Asks fun _ => Sync.Ask.Writing := by
    intro p hp
    obtain ⟨job, -, rfl⟩ := List.mem_map.1 hp
    exact Sync.resync_asks _ _
  have hkept : Kept fetched x.clock cache x.ticks m := Sync.kept_of_run x.fetches hasks hm
  have hworld : m.world = x.final.world := hreflects.world
  refine ⟨m.history, hworld ▸ hkept.asked, hkept.genuine, hworld ▸ hkept.slotted, fun o ho => ?_, fun r hr => ?_⟩
  · have hlt := Interleaving.program_lt_of_run hm o ho
    have hlength : x.plan.programs.length = usernames.length := by
      simp [Plan.programs, Plan.jobs, plan, Plan.ofConfig, jobsOf]
    rw [place_jobsOf, List.mem_range]
    exact hlength ▸ hlt
  · obtain ⟨p, hp, hleads⟩ := (Interleaving.leads_of_run hm).of_getElem? (hreflects.finished r hr)
    have hjob : x.plan.jobs[r.job.place]? = some r.job :=
      getElem?_jobs.2 ⟨x.finished_job_perm.subset (List.mem_map_of_mem hr), rfl⟩
    have hprogram : x.plan.programs[r.job.place]? = some (Sync.resync r.job.username x.ttl) := by
      rw [Plan.programs, List.getElem?_map, hjob]
      rfl
    cases hp.symm.trans hprogram
    exact Sync.synced_of_runs (Program.leads_done_iff_runs.1 hleads)

variable {x} {history : List (Occurrence Calls)}

namespace History

/-- each job has synchronized its account -/
theorem synced_of_job (h : x.History history) {job : Job} (hjob : job ∈ jobsOf usernames) : ∃ outcome,
    ⟨job, outcome⟩ ∈ x.final.finished ∧ Synced job.username x.ttl (exchangesOf history job.place) outcome := by
  obtain ⟨r, hr, rfl⟩ := List.mem_map.1 (x.finished_job_perm.symm.subset hjob)
  exact ⟨r.outcome, hr, h.synced r hr⟩

theorem genuine_of_job (h : x.History history) (job : Job) :
    ∀ e ∈ exchangesOf history job.place, Genuine fetched x.clock e :=
  fun _ he => h.genuine _ (Interleaving.mem_of_mem_exchangesOf he)

/-- all that was asked, job by job -/
theorem asked_perm (h : x.History history) : x.final.world.asked.Perm
    ((jobsOf usernames).flatMap fun job => requestsOf (exchangesOf history job.place)) := by
  have hnodup : ((jobsOf usernames).map Job.place).Nodup := by
    rw [place_jobsOf]
    exact List.nodup_range
  have hall := (Interleaving.perm_exchangesOf hnodup h.program).map Exchange.request
  rw [List.map_map, List.map_flatMap, List.flatMap_map] at hall
  rw [h.asked]
  exact (List.reverse_perm _).trans hall

/-- a write to the cache belongs to the account that it is for -/
theorem written (h : x.History history) {u : String} {e : Entry} {ttl : Duration}
    (hwrite : .cacheSet u e ttl ∈ x.final.world.asked) : u ∈ usernames ∧ ttl = x.ttl ∧
      ∃ snapshot time, fetched u = .ok snapshot ∧ e = ⟨Stats.ofRepositories snapshot.repositories, x.clock time⟩ := by
  obtain ⟨job, hjob, hmem⟩ := List.mem_flatMap.1 (h.asked_perm.subset hwrite)
  obtain ⟨outcome, -, hsynced⟩ := h.synced_of_job hjob
  obtain ⟨rfl, rfl, snapshot, time, hfetched, rfl⟩ := hsynced.written (h.genuine_of_job job) hmem
  refine ⟨?_, rfl, snapshot, time, hfetched, rfl⟩
  rw [← username_jobsOf usernames]
  exact List.mem_map_of_mem hjob

/-- an account that was fetched is written to the cache -/
theorem exists_written (h : x.History history) {u : String} (hu : u ∈ usernames) {snapshot : Snapshot}
    (hfetched : fetched u = .ok snapshot) : ∃ e, .cacheSet u e x.ttl ∈ x.final.world.asked := by
  rw [← username_jobsOf usernames] at hu
  obtain ⟨job, hjob, rfl⟩ := List.mem_map.1 hu
  obtain ⟨outcome, -, hsynced⟩ := h.synced_of_job hjob
  obtain ⟨e, he⟩ := hsynced.exists_written (h.genuine_of_job job) hfetched
  exact ⟨e, h.asked_perm.symm.subset (List.mem_flatMap.2 ⟨job, hjob, he⟩)⟩

end History

/-! ## What it comes to -/

variable (x)

/-- **Each account is reported**, by what its fetch came to. -/
theorem finished_perm : x.final.finished.Perm (reports usernames fetched) := by
  obtain ⟨history, h⟩ := x.exists_history
  have houtcome : ∀ r ∈ x.final.finished, r = ⟨r.job, (fetched r.job.username).map fun _ => ()⟩ := fun r hr =>
    congrArg (Report.mk r.job) ((h.synced r hr).outcome (h.genuine_of_job r.job))
  have hall : x.final.finished =
      (x.final.finished.map Report.job).map fun job => ⟨job, (fetched job.username).map fun _ => ()⟩ := by
    rw [List.map_map]
    exact (List.map_id _).symm.trans (List.map_congr_left houtcome)
  rw [hall]
  exact x.finished_job_perm.map _

theorem takenRefreshed_perm :
    x.final.takenRefreshed.Perm ((reports usernames fetched).filterMap Report.refreshed?) := by
  obtain ⟨hclosed, htaken, -⟩ := x.taken
  rw [htaken]
  exact (sent_of_closed x.orderly x.accounts hclosed).2.1.symm.trans (x.finished_perm.filterMap _)

theorem takenProblems_perm : x.final.takenProblems.Perm ((reports usernames fetched).filterMap Report.problem?) := by
  obtain ⟨hclosed, -, htaken⟩ := x.taken
  have hlistings : x.final.listings = [] := by
    rcases x.accounts.listings with hnone | ⟨-, f, hf, -⟩
    · exact hnone
    · cases hf
  have hall : x.final.sentProblems.filter Notice.isAccount = x.final.sentProblems := by
    refine List.filter_eq_self.2 fun n hn => ?_
    cases n with
    | account job cause => rfl
    | listing f => cases List.filterMap_eq_nil_iff.1 hlistings _ hn
  have hproblems := (sent_of_closed x.orderly x.accounts hclosed).2.2
  rw [hall] at hproblems
  rw [htaken]
  exact hproblems.symm.trans (x.finished_perm.filterMap _)

/-- **What was fetched is to be saved**, and nothing else. -/
theorem saves_perm :
    (savesOf x.final.world.asked).Perm (usernames.filterMap fun username => (fetched username).toOption) := by
  obtain ⟨history, h⟩ := x.exists_history
  have hjob : ∀ job ∈ jobsOf usernames, savesOf (requestsOf (exchangesOf history job.place)) =
      (fetched job.username).toOption.toList := by
    intro job hjob
    obtain ⟨outcome, -, hsynced⟩ := h.synced_of_job hjob
    exact hsynced.saves (h.genuine_of_job job)
  have hall : savesOf ((jobsOf usernames).flatMap fun job => requestsOf (exchangesOf history job.place)) =
      usernames.filterMap fun username => (fetched username).toOption :=
    calc savesOf ((jobsOf usernames).flatMap fun job => requestsOf (exchangesOf history job.place))
        = (jobsOf usernames).flatMap fun job => savesOf (requestsOf (exchangesOf history job.place)) :=
          List.filterMap_flatMap
      _ = (jobsOf usernames).flatMap fun job => (fetched job.username).toOption.toList := List.flatMap_congr hjob
      _ = usernames.flatMap fun username => (fetched username).toOption.toList := by
          rw [← List.flatMap_map Job.username fun username => (fetched username).toOption.toList, username_jobsOf]
      _ = usernames.filterMap fun username => (fetched username).toOption :=
          (List.filterMap_eq_flatMap_toList _ _).symm
  rw [← hall]
  exact h.asked_perm.filterMap _

/-- **Under the key of an account that was fetched there is what was fetched.** -/
theorem slot_of_fetched (hkeys : (usernames.map Cache.key).Nodup) {u : String} (hu : u ∈ usernames)
    {snapshot : Snapshot} (hfetched : fetched u = .ok snapshot) : ∃ time tick,
      x.final.world.cache.slot? (Cache.key u) =
        some ⟨⟨Stats.ofRepositories snapshot.repositories, x.clock time⟩, x.ticks tick + x.ttl⟩ := by
  obtain ⟨history, h⟩ := x.exists_history
  rcases h.slotted (Cache.key u) with ⟨-, hnone⟩ | ⟨v, e, ttl, tick, hwrite, hkey, hslot⟩
  · obtain ⟨e, hwrite⟩ := h.exists_written hu hfetched
    exact absurd rfl (hnone u e x.ttl hwrite)
  · obtain ⟨hv, rfl, snapshot', time, hfetched', rfl⟩ := h.written hwrite
    -- no other account has the key, so the write is of what was fetched for this one
    obtain rfl : v = u := List.inj_on_of_nodup_map hkeys hv hu hkey
    cases hfetched.symm.trans hfetched'
    exact ⟨time, tick, hslot⟩

/-- **Under all other keys there is what was there before.** -/
theorem slot_of_others {k : String} (hk : ∀ u ∈ usernames, Cache.key u = k → ∀ snapshot, fetched u ≠ .ok snapshot) :
    x.final.world.cache.slot? k = cache.slot? k := by
  obtain ⟨history, h⟩ := x.exists_history
  rcases h.slotted k with ⟨hsame, -⟩ | ⟨v, e, ttl, tick, hwrite, hkey, -⟩
  · exact hsame
  · obtain ⟨hv, -, snapshot, time, hfetched, -⟩ := h.written hwrite
    exact absurd hfetched (hk v hv hkey snapshot)

end CompleteSweep

/-! ## Two schedules -/

/-- **The outcome of a sweep does not depend on its schedule**, nor on how many workers there are and how much the
streams hold. Two complete sweeps over the same cache, of accounts that no two of are the same up to case, of which the
same is fetched in both:
- report the same accounts as refreshed, and the same problems;
- pass the same snapshots to the store;
- leave the same statistics under each key of the cache: those of what was fetched for an account, whatever became of
  the save, and what was there before under all other keys. -/
theorem schedules_agree {usernames : List String} {fetched : String → Except Failure Snapshot} {cache : Cache.Memory}
    (hkeys : (usernames.map Cache.key).Nodup) (a b : CompleteSweep usernames fetched cache) :
    (a.final.takenRefreshed.Perm b.final.takenRefreshed ∧ a.final.takenProblems.Perm b.final.takenProblems) ∧
    (savesOf a.final.world.asked).Perm (savesOf b.final.world.asked) ∧
    (∀ k, (a.final.world.cache.slot? k).map (fun slot => slot.entry.stats) =
      (b.final.world.cache.slot? k).map fun slot => slot.entry.stats) ∧
    (∀ u ∈ usernames, ∀ snapshot, fetched u = .ok snapshot → ∃ time tick,
      a.final.world.cache.slot? (Cache.key u) =
        some ⟨⟨Stats.ofRepositories snapshot.repositories, a.clock time⟩, a.ticks tick + a.ttl⟩) ∧
    ∀ k, (∀ u ∈ usernames, Cache.key u = k → ∀ snapshot, fetched u ≠ .ok snapshot) →
      a.final.world.cache.slot? k = cache.slot? k := by
  refine ⟨⟨a.takenRefreshed_perm.trans b.takenRefreshed_perm.symm,
    a.takenProblems_perm.trans b.takenProblems_perm.symm⟩, a.saves_perm.trans b.saves_perm.symm, fun k => ?_,
    fun u hu snapshot hfetched => a.slot_of_fetched hkeys hu hfetched, fun k hk => a.slot_of_others hk⟩
  by_cases hk : ∃ u ∈ usernames, Cache.key u = k ∧ ∃ snapshot, fetched u = .ok snapshot
  · obtain ⟨u, hu, rfl, snapshot, hfetched⟩ := hk
    obtain ⟨_, _, ha⟩ := a.slot_of_fetched hkeys hu hfetched
    obtain ⟨_, _, hb⟩ := b.slot_of_fetched hkeys hu hfetched
    rw [ha, hb]
    rfl
  · have hothers : ∀ u ∈ usernames, Cache.key u = k → ∀ snapshot, fetched u ≠ .ok snapshot :=
      fun u hu hkey snapshot hfetched => hk ⟨u, hu, hkey, snapshot, hfetched⟩
    rw [a.slot_of_others hothers, b.slot_of_others hothers]

/-- an account with two repositories, one of them a fork -/
def annsAccount : Snapshot :=
  .ofRepositories "ann" [⟨1, "ann", none, none, some "Rust", 5, false, 2⟩,
    ⟨2, "ann", none, none, some "C", 9, true, 1⟩] .epoch

/-- GitHub knows ann, and nobody else -/
def annOnly (username : String) : Except Failure Snapshot :=
  if username = "ann" then .ok annsAccount else .error (.accountNotFound username)

/-- partners of which GitHub replies so, and the others let everything succeed -/
def partnersOf (fetched : String → Except Failure Snapshot) : Partners Unit where
  readStored username x := (.error (.accountNotStored username), x)
  save _ x := (.ok (), x)
  fetch username x := (fetched username, x)
  publish _ x := (.ok (), x)

/-- one worker synchronizes one account after the other -/
def oneByOne : CompleteSweep ["ann", "bob"] annOnly .empty where
  config := ⟨1, 1, 0⟩
  σ := Unit
  partners := partnersOf annOnly
  atFirst := ()
  places := ⟨1, 0⟩
  clock _ := .epoch
  ticks time := time
  ops := [.list, .queue, .lock 0, .poll 0, .advance 0, .advance 0, .advance 0, .advance 0, .advance 0, .deliver 0,
    .queue, .lock 0, .poll 0, .advance 0, .advance 0, .deliver 0, .lock 0, .poll 0, .join, .join,
    .takeRefreshed, .takeRefreshed, .takeProblem, .takeProblem]
  final := _
  fetches _ _ := rfl
  run := rfl
  uncancelled := by decide
  complete := rfl

/-- two workers synchronize both accounts at once; bob, who is taken second, is reported first -/
def atOnce : CompleteSweep ["ann", "bob"] annOnly .empty where
  config := ⟨2, 2, 0⟩
  σ := Unit
  partners := partnersOf annOnly
  atFirst := ()
  places := ⟨1, 0⟩
  clock _ := .epoch
  ticks time := 2 * time
  ops := [.list, .queue, .queue, .lock 0, .poll 0, .lock 1, .poll 1, .advance 1, .advance 0, .advance 1, .deliver 1,
    .takeProblem, .advance 0, .advance 0, .advance 0, .advance 0, .deliver 0, .lock 1, .poll 1, .lock 0, .poll 0,
    .join, .join, .join, .takeProblem, .takeRefreshed, .takeRefreshed]
  final := _
  fetches _ _ := rfl
  run := rfl
  uncancelled := by decide
  complete := rfl

theorem schedules_agree_atOnce :
    (["ann", "bob"].map Cache.key).Nodup ∧ oneByOne.ops ≠ atOnce.ops ∧ atOnce.final.takenRefreshed = [⟨0, "ann"⟩] ∧
      oneByOne.final.takenRefreshed.Perm atOnce.final.takenRefreshed ∧
      oneByOne.final.takenProblems.Perm atOnce.final.takenProblems ∧
      (savesOf oneByOne.final.world.asked).Perm (savesOf atOnce.final.world.asked) ∧
      (∀ k, (oneByOne.final.world.cache.slot? k).map (fun slot => slot.entry.stats) =
        (atOnce.final.world.cache.slot? k).map fun slot => slot.entry.stats) ∧
      (atOnce.final.world.cache.slot? "ann").map (fun slot => slot.entry.stats) =
        some ⟨2, 1, 1, 5, 2, .ofList [("Rust", 1)]⟩ := by
  have hkeys : (["ann", "bob"].map Cache.key).Nodup := by decide
  obtain ⟨⟨hrefreshed, hproblems⟩, hsaves, hslots, -⟩ := schedules_agree hkeys oneByOne atOnce
  exact ⟨hkeys, by decide, rfl, hrefreshed, hproblems, hsaves, hslots, by decide⟩

end AccountStats.Sweep
