import Mathlib.Tactic
import AccountStats.Proofs.Cache.Memory
import AccountStats.Proofs.Program.Interleaving
import AccountStats.Proofs.Sync.Sessions
/-
What a synchronization does to the store and to the cache in the process.

It is told by its exchanges alone: which snapshot it saves and what it writes to the cache follow from the reply to its
fetch, whatever becomes of the save. What is under a key of the cache follows from the writes under that key. Results:
- `synced_of_runs`: the exchanges of a synchronization;
- `Synced.outcome`, `Synced.saves`, `Synced.written`: what follows from the fetch;
- `slotted_answer`: the slot of a key is what it was, or what some request has written there;
- `kept_of_run`: so it is at the end of every run of synchronizations side by side.
-/
namespace AccountStats.Sync

open Program (Asks Exchange Runs asks_done runs_ask runs_done)

variable {username : String} {ttl : Duration} {es : List (Exchange Calls)} {r : Except Failure Unit}

/-! ## The exchanges of a synchronization -/

/-- exchanges that only note something -/
def Noted (es : List (Exchange Calls)) : Prop := ∀ e ∈ es, ∃ n, e = ⟨.note n, ()⟩

/-- a synchronization: the fetch has failed, or what it has brought is saved, aggregated and cached -/
inductive Synced (username : String) (ttl : Duration) : List (Exchange Calls) → Except Failure Unit → Prop where
  | failed (f : Failure) : Synced username ttl [⟨.fetch username, .error f⟩] (.error f)
  | done {snapshot : Snapshot} {saved : Except Failure Unit} {before after : List (Exchange Calls)}
      {now : Time.Instant} {written : Except Cache.CacheError Unit} : Noted before → Noted after →
      Synced username ttl (⟨.fetch username, .ok snapshot⟩ :: ⟨.save snapshot, saved⟩ :: (before ++ ⟨.now, now⟩ ::
        ⟨.cacheSet username ⟨Stats.ofRepositories snapshot.repositories, now⟩ ttl, written⟩ :: after)) (.ok ())

theorem noted_note {n : Note} (h : Runs (note n) es ()) : Noted es := by
  rw [runs_note.1 h]
  exact List.forall_mem_singleton.2 ⟨n, rfl⟩

theorem noted_noteSave {saved : Except Failure Unit} (h : Runs (noteSave username saved) es ()) : Noted es := by
  cases saved with
  | ok _ =>
    obtain ⟨rfl, -⟩ := runs_done.1 h
    exact List.forall_mem_nil _
  | error f =>
    rw [noteSave] at h
    split at h <;> exact noted_note h

theorem noted_storeInCache {e : Entry} (h : Runs (storeInCache username e ttl) es ()) :
    ∃ written after, es = ⟨.cacheSet username e ttl, written⟩ :: after ∧ Noted after := by
  obtain ⟨written, after, rfl, hrest⟩ := runs_ask.1 h
  refine ⟨written, after, rfl, ?_⟩
  cases written with
  | ok _ =>
    obtain ⟨rfl, -⟩ := runs_done.1 hrest
    exact List.forall_mem_nil _
  | error err => exact noted_note hrest

/-- **The exchanges of a synchronization.** -/
theorem synced_of_runs (h : Runs (resync username ttl) es r) : Synced username ttl es r := by
  obtain ⟨es₁, es₂, result, rfl, hpipeline, hresult⟩ := Runs.split (p := pipeline username ttl) h
  obtain ⟨fetched, rest, rfl, hfetched⟩ := runs_ask.1 hpipeline
  cases fetched with
  | error f =>
    obtain ⟨rfl, rfl⟩ := runs_done.1 hfetched
    obtain ⟨rfl, rfl⟩ := runs_done.1 hresult
    exact .failed f
  | ok snapshot =>
    obtain ⟨saved, rest, rfl, hsaved⟩ := runs_ask.1 hfetched
    obtain ⟨before, rest, ⟨⟩, rfl, hbefore, htime⟩ := Runs.split (p := noteSave username saved) hsaved
    obtain ⟨now, rest, rfl, hnow⟩ := runs_ask.1 htime
    obtain ⟨es₃, es₄, ⟨⟩, rfl, hcached, hdone⟩ :=
      Runs.split (p := storeInCache username ⟨Stats.ofRepositories snapshot.repositories, now⟩ ttl) hnow
    obtain ⟨written, after, rfl, hafter⟩ := noted_storeInCache hcached
    obtain ⟨rfl, rfl⟩ := runs_done.1 hdone
    obtain ⟨rfl, rfl⟩ := runs_done.1 hresult
    simp only [List.append_nil]
    exact .done (noted_noteSave hbefore) hafter

/-! ## What follows from the fetch -/

/-- a reply that GitHub gives to a fetch, or that the clock gives -/
def Genuine (fetched : String → Except Failure Snapshot) (clock : Nat → Time.Instant) : Exchange Calls → Prop
  | ⟨.fetch username, x⟩ => x = fetched username
  | ⟨.now, x⟩ => ∃ time, x = clock time
  | _ => True

def Ask.save? : Ask → Option Snapshot
  | .save s => some s
  | _ => none

/-- the snapshots that were to be saved, in order -/
def savesOf (asked : List Ask) : List Snapshot := asked.filterMap Ask.save?

/-- what was asked in some exchanges -/
def requestsOf (es : List (Exchange Calls)) : List Ask := es.map Exchange.request

theorem Noted.requests (h : Noted es) : ∀ r ∈ requestsOf es, ∃ n, r = .note n := by
  intro r hr
  obtain ⟨e, he, rfl⟩ := List.mem_map.1 hr
  obtain ⟨n, rfl⟩ := h e he
  exact ⟨n, rfl⟩

theorem Noted.saves (h : Noted es) : savesOf (requestsOf es) = [] := by
  refine List.filterMap_eq_nil_iff.2 fun r hr => ?_
  obtain ⟨n, rfl⟩ := h.requests r hr
  rfl

namespace Synced

variable {fetched : String → Except Failure Snapshot} {clock : Nat → Time.Instant}

/-- a synchronization fails just if its fetch does -/
theorem outcome (h : Synced username ttl es r) (hgenuine : ∀ e ∈ es, Genuine fetched clock e) :
    r = (fetched username).map fun _ => () := by
  cases h with
  | failed f =>
    have hfetched : .error f = fetched username := hgenuine _ List.mem_cons_self
    rw [← hfetched]
    rfl
  | @done snapshot saved before after now written _ _ =>
    have hfetched : .ok snapshot = fetched username := hgenuine _ List.mem_cons_self
    rw [← hfetched]
    rfl

/-- what is saved is what was fetched -/
theorem saves (h : Synced username ttl es r) (hgenuine : ∀ e ∈ es, Genuine fetched clock e) :
    savesOf (requestsOf es) = (fetched username).toOption.toList := by
  cases h with
  | failed f =>
    have hfetched : .error f = fetched username := hgenuine _ List.mem_cons_self
    rw [← hfetched]
    rfl
  | @done snapshot saved before after now written hbefore hafter =>
    have hfetched : .ok snapshot = fetched username := hgenuine _ List.mem_cons_self
    rw [← hfetched]
    have hnotes := hbefore.saves
    have hnotes' := hafter.saves
    unfold savesOf requestsOf at hnotes hnotes' ⊢
    simp only [List.map_cons, List.map_append, List.filterMap_cons, List.filterMap_append, Ask.save?, hnotes, hnotes']
    rfl

/-- what is cached is the statistics of what was fetched -/
theorem written (h : Synced username ttl es r) (hgenuine : ∀ e ∈ es, Genuine fetched clock e) {u : String} {e : Entry}
    {ttl' : Duration} (hwrite : .cacheSet u e ttl' ∈ requestsOf es) :
    u = username ∧ ttl' = ttl ∧ ∃ snapshot time, fetched username = .ok snapshot ∧
      e = ⟨Stats.ofRepositories snapshot.repositories, clock time⟩ := by
  cases h with
  | failed f => simp [requestsOf] at hwrite
  | @done snapshot saved before after now written hbefore hafter =>
    have hfetched : .ok snapshot = fetched username := hgenuine _ List.mem_cons_self
    obtain ⟨time, htime⟩ : ∃ time, now = clock time := hgenuine ⟨.now, now⟩ (by simp)
    have hnotNoted : ∀ {notes : List (Exchange Calls)}, Noted notes → .cacheSet u e ttl' ∉ requestsOf notes := by
      intro notes hnotes hmem
      obtain ⟨n, hn⟩ := hnotes.requests _ hmem
      cases hn
    have hsame : Ask.cacheSet u e ttl' =
        .cacheSet username ⟨Stats.ofRepositories snapshot.repositories, now⟩ ttl := by
      have hnone := hnotNoted hbefore
      have hnone' := hnotNoted hafter
      unfold requestsOf at hwrite hnone hnone'
      simpa [hnone, hnone'] using hwrite
    cases hsame
    exact ⟨rfl, rfl, snapshot, time, hfetched.symm, by rw [htime]⟩

/-- if the fetch has succeeded, something is cached -/
theorem exists_written (h : Synced username ttl es r) (hgenuine : ∀ e ∈ es, Genuine fetched clock e)
    {snapshot : Snapshot} (hok : fetched username = .ok snapshot) : ∃ e, .cacheSet username e ttl ∈ requestsOf es := by
  cases h with
  | failed f =>
    have hfetched : .error f = fetched username := hgenuine _ List.mem_cons_self
    rw [hok] at hfetched
    cases hfetched
  | @done snapshot' saved before after now written _ _ =>
    exact ⟨⟨Stats.ofRepositories snapshot'.repositories, now⟩, by simp [requestsOf]⟩

end Synced

/-! ## Slots of the cache -/

/-- the cache in the process, on a clock of its own -/
def memoryServer (ticks : Nat → Nat) : CacheServer Cache.Memory where
  get time u m := (.ok (m.get (ticks time) u).1, (m.get (ticks time) u).2)
  set time u e ttl m := (.ok (), m.set (ticks time) u e ttl)
  delete _ u m := (.ok (), m.delete u)

variable {σ : Type}

/-- under each key there is what was there at first, if nothing was written under it, or else what some request has
written -/
def Slotted (initial : Cache.Memory) (ticks : Nat → Nat) (w : Session σ Cache.Memory) : Prop :=
  ∀ k, (w.cache.slot? k = initial.slot? k ∧ ∀ u e ttl, .cacheSet u e ttl ∈ w.asked → Cache.key u ≠ k) ∨
    ∃ u e ttl time, .cacheSet u e ttl ∈ w.asked ∧ Cache.key u = k ∧ w.cache.slot? k = some ⟨e, ticks time + ttl⟩

/-- a request that writes to the cache, or does not ask it anything -/
def Ask.Writing : Ask → Prop
  | .cacheGet _ | .cacheDelete _ => False
  | _ => True

variable {partners : Partners σ} {clock : Nat → Time.Instant} {initial : Cache.Memory} {ticks : Nat → Nat}
  {w : Session σ Cache.Memory}

theorem cache_answer {r : Ask} (hr : r.Writing) (hset : ∀ u e ttl, r ≠ .cacheSet u e ttl) :
    (w.answer partners (memoryServer ticks) clock r).2.cache = w.cache := by
  cases r with
  | cacheGet u => cases hr
  | cacheDelete u => cases hr
  | cacheSet u e ttl => exact absurd rfl (hset u e ttl)
  | _ => rfl

/-- **The slot of a key is what it was, or what some request has written there.** -/
theorem slotted_answer (h : Slotted initial ticks w) {r : Ask} (hr : r.Writing) :
    Slotted initial ticks (w.answer partners (memoryServer ticks) clock r).2 := by
  intro k
  rw [asked_answer]
  by_cases hset : ∃ u e ttl, r = .cacheSet u e ttl ∧ Cache.key u = k
  · obtain ⟨u, e, ttl, rfl, rfl⟩ := hset
    refine Or.inr ⟨u, e, ttl, w.asked.length, by simp, rfl, ?_⟩
    exact (Cache.Memory.slot?_set _ u e ttl _).trans (if_pos rfl)
  · have hslot : (w.answer partners (memoryServer ticks) clock r).2.cache.slot? k = w.cache.slot? k := by
      by_cases hany : ∃ u e ttl, r = .cacheSet u e ttl
      · obtain ⟨u, e, ttl, rfl⟩ := hany
        exact (Cache.Memory.slot?_set _ u e ttl k).trans (if_neg fun hk => hset ⟨u, e, ttl, rfl, hk.symm⟩)
      · rw [cache_answer hr fun u e ttl heq => hany ⟨u, e, ttl, heq⟩]
    rw [hslot]
    rcases h k with ⟨hsame, hnone⟩ | ⟨u, e, ttl, time, hmem, hk, hslot⟩
    · refine Or.inl ⟨hsame, fun u e ttl hmem hk => ?_⟩
      rcases List.mem_append.1 hmem with hmem | hmem
      · exact hnone u e ttl hmem hk
      · exact hset ⟨u, e, ttl, (List.mem_singleton.1 hmem).symm, hk⟩
    · exact Or.inr ⟨u, e, ttl, time, List.mem_append_left _ hmem, hk, hslot⟩

/-! ## Synchronizations in any order -/

theorem resync_asks (username : String) (ttl : Duration) : (resync username ttl).Asks fun _ => Ask.Writing := by
  have hpipeline : (pipeline username ttl).Asks fun _ => Ask.Writing :=
    (pipeline_asks username ttl).imp fun es r h => by cases r <;> trivial
  refine Asks.bind hpipeline fun es result _ => ?_
  cases result with
  | ok e => exact asks_done _
  | error f => exact asks_done _

variable {fetched : String → Except Failure Snapshot} {α : Type} {s t : Interleaving Calls (Session σ Cache.Memory) α}

theorem genuine_answer (hfetch : ∀ u x, (partners.fetch u x).1 = fetched u) (r : Ask) :
    Genuine fetched clock ⟨r, (w.answer partners (memoryServer ticks) clock r).1⟩ := by
  cases r with
  | fetch u => exact hfetch u w.partners
  | now => exact ⟨w.asked.length, rfl⟩
  | _ => trivial

/-- the history tells all that was asked, GitHub has replied as it does, and the cache holds what was written -/
structure Kept (fetched : String → Except Failure Snapshot) (clock : Nat → Time.Instant) (initial : Cache.Memory)
    (ticks : Nat → Nat) (s : Interleaving Calls (Session σ Cache.Memory) α) : Prop where
  asked : s.world.asked = (s.history.map fun o => o.exchange.request).reverse
  genuine : ∀ o ∈ s.history, Genuine fetched clock o.exchange
  slotted : Slotted initial ticks s.world

theorem step_kept {k : Nat} (hfetch : ∀ u x, (partners.fetch u x).1 = fetched u)
    (hwriting : ∀ r next, s.programs[k]? = some (.ask r next) → r.Writing) (hs : Kept fetched clock initial ticks s)
    (h : s.step? (fun _ : Unit => Session.answer partners (memoryServer ticks) clock) k () = some t) :
    Kept fetched clock initial ticks t := by
  obtain ⟨r, next, hk, rfl⟩ := Interleaving.step?_eq_some.1 h
  refine ⟨?_, List.forall_mem_cons.2 ⟨genuine_answer hfetch r, hs.genuine⟩,
    slotted_answer hs.slotted (hwriting r next hk)⟩
  rw [asked_answer, hs.asked, List.map_cons, List.reverse_cons]

/-- **What is kept by every step is kept by every run.** -/
theorem kept_of_run {programs : List (Program Calls α)} {moments : List (Nat × Unit)} {x : σ} {places : Background}
    (hfetch : ∀ u x, (partners.fetch u x).1 = fetched u) (hasks : ∀ p ∈ programs, p.Asks fun _ => Ask.Writing)
    (hrun : (Interleaving.start ⟨x, places, initial, []⟩ programs).run?
      (fun _ : Unit => Session.answer partners (memoryServer ticks) clock) moments = some s) :
    Kept fetched clock initial ticks s := by
  have hall : Interleaving.Led programs s ∧ Kept fetched clock initial ticks s := by
    refine Interleaving.run_preserves (P := fun s => Interleaving.Led programs s ∧ Kept fetched clock initial ticks s)
      (fun s k _ t h hs => ⟨Interleaving.step_led h hs.1, step_kept hfetch (fun r next hk => ?_) hs.2 h⟩) hrun
      ⟨Interleaving.led_start _ programs, rfl, List.forall_mem_nil _,
        fun k => Or.inl ⟨rfl, by simp [Interleaving.start]⟩⟩
    obtain ⟨p, hp, hleads⟩ := hs.1.of_getElem? hk
    exact hasks p (List.mem_of_getElem? hp) _ _ _ hleads
  exact hall.2

end AccountStats.Sync
