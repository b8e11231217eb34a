import Mathlib.Tactic
import AccountStats.Scenario.Service
import AccountStats.Proofs.Sync.Sessions
/-
A cache that always fails is like no cache.

The same calls are served twice, by the same partners: with a cache none of whose reads and writes succeeds, and with
one that keeps nothing. The clocks may differ, so times are left out of account wherever they come from the clock.
Results:
- `Parallel.bind`: what goes on side by side part by part does so as a whole;
- `parallel_getEntry`: a look-up whose cache fails goes on where a miss does;
- `broken_cache_as_none`: the two runs come to the same, and ask the same of the partners; only the warnings tell them
  apart.
-/
namespace AccountStats

/-! ## Up to readings of the clock -/

def Entry.timeless (e : Entry) : Entry := { e with updatedAt := .epoch }

def Scenario.ServiceResult.timeless : Scenario.ServiceResult → Scenario.ServiceResult
  | .entry r => .entry (r.map Entry.timeless)
  | .event r => .event (r.map Banner.Event.timeless)
  | r => r

theorem Entry.stats_eq_of_timeless {e e' : Entry} (h : e.timeless = e'.timeless) : e.stats = e'.stats :=
  (Entry.mk.inj h).1

namespace Sync

open Scenario (ServiceResult)

def Ask.timeless : Ask → Ask
  | .cacheSet username e ttl => .cacheSet username e.timeless ttl
  | .publish event => .publish event.timeless
  | r => r

/-! ## Calls, and what they meet -/

/-- a call of the service -/
inductive Call where
  | getEntry (username : String)
  | getStats (username : String)
  | recalculate (username : String)
  | resync (username : String) (ttl : Duration)
  | publish (username : String) (layout : Banner.Layout) (storagePath : String)

def Call.program (policy : FreshnessPolicy) : Call → Program Calls ServiceResult
  | .getEntry u => do return .entry (← Sync.getEntry policy u)
  | .getStats u => do return .stats (← Sync.getStats policy u)
  | .recalculate u => do return .stats (← Sync.recalculate policy u)
  | .resync u ttl => do return .unit (← Sync.resync u ttl)
  | .publish u layout path => do return .event (← Banner.publish policy u layout path)

/-- a cache that keeps nothing -/
def CacheServer.none : CacheServer Unit where
  get _ _ k := (.ok .none, k)
  set _ _ _ _ k := (.ok (), k)
  delete _ _ k := (.ok (), k)

/-- a cache none of whose reads and writes succeeds -/
structure CacheServer.Broken {κ : Type} (server : CacheServer κ) : Prop where
  get : ∀ time username k, ∃ err, (server.get time username k).1 = .error err
  set : ∀ time username e ttl k, ∃ err, (server.set time username e ttl k).1 = .error err

variable {σ κ α β : Type}

/-- serves calls one after another -/
def serve (partners : Partners σ) (server : CacheServer κ) (clock : Nat → Time.Instant) (policy : FreshnessPolicy)
    (calls : List Call) (s : σ) (k : κ) : List ServiceResult × Session σ κ :=
  (calls.mapM (Call.program policy)).run (Session.answer partners server clock) ⟨s, .init policy, k, []⟩

/-! ## What is asked -/

/-- warnings that the cache has failed -/
def blamesCache : Note → Bool
  | .log e => e.level = .warn ∧ (e.message = "Stats cache read failed" ∨ e.message = "Failed to cache stats")
  | .count .. => false

def Ask.toPartner : Ask → Bool
  | .readStored _ | .save _ | .fetch _ | .publish _ => true
  | _ => false

/-- what was asked of the partners, in order -/
def partnerCalls (asked : List Ask) : List Ask := (asked.filter Ask.toPartner).map Ask.timeless

/-- all but the warnings that the cache has failed -/
def Ask.kept (r : Ask) : Bool := !r.note?.any blamesCache

/-- two runs side by side have asked the same up to times, but for the warnings of the first, and the same has become of
the partners -/
structure Matched {κ' : Type} (w : Session σ κ) (v : Session σ κ') : Prop where
  partners : w.partners = v.partners
  asked : (w.asked.filter Ask.kept).map Ask.timeless = v.asked.map Ask.timeless
  quiet : ∀ r ∈ v.asked, r.Quiet

theorem matched_start (policy : FreshnessPolicy) {κ' : Type} (s : σ) (k : κ) (k' : κ') :
    Matched (⟨s, .init policy, k, []⟩ : Session σ κ) ⟨s, .init policy, k', []⟩ := ⟨rfl, rfl, List.forall_mem_nil _⟩

section Parallel

variable {γ : Type} (partners : Partners σ) (server : CacheServer κ) (clock clock' : Nat → Time.Instant)

/-- two programs go on side by side, one with a cache and the other with none -/
def Parallel (R : α → β → Prop) (p : Program Calls α) (q : Program Calls β) : Prop :=
  ∀ w v, Matched w v →
    R (p.run (Session.answer partners server clock) w).1 (q.run (Session.answer partners .none clock') v).1 ∧
      Matched (p.run (Session.answer partners server clock) w).2 (q.run (Session.answer partners .none clock') v).2

variable {partners server clock clock'}

theorem parallel_done {R : α → β → Prop} {a : α} {b : β} (h : R a b) :
    Parallel partners server clock clock' R (.done a) (.done b) := fun _ _ hmatched => ⟨h, hmatched⟩

/-- **What goes on side by side part by part does so as a whole.** -/
theorem Parallel.bind {δ : Type} {R : α → β → Prop} {S : γ → δ → Prop} {p : Program Calls α} {q : Program Calls β}
    {f : α → Program Calls γ} {g : β → Program Calls δ} (hp : Parallel partners server clock clock' R p q)
    (hf : ∀ a b, R a b → Parallel partners server clock clock' S (f a) (g b)) :
    Parallel partners server clock clock' S (p >>= f) (q >>= g) := by
  intro w v hmatched
  obtain ⟨hresult, hleft⟩ := hp w v hmatched
  have hw := Program.run_bind (Session.answer partners server clock) p f w
  have hv := Program.run_bind (Session.answer partners .none clock') q g v
  exact (congrArg₂ (fun x y => S x.1 y.1 ∧ Matched x.2 y.2) hw hv).mpr (hf _ _ hresult _ _ hleft)

/-! ## Requests -/

variable {w : Session σ κ} {v : Session σ Unit} {r r' : Ask}

theorem Matched.answer (h : Matched w v) (hr : r.timeless = r'.timeless) (hkept : r.kept = true) (hquiet : r'.Quiet)
    (hpartners : (w.answer partners server clock r).2.partners = (v.answer partners .none clock' r').2.partners) :
    Matched (w.answer partners server clock r).2 (v.answer partners .none clock' r').2 where
  partners := hpartners
  asked := by
    rw [asked_answer, asked_answer, List.filter_append, List.map_append, List.map_append, h.asked,
      List.filter_cons_of_pos hkept]
    exact congrArg (_ ++ [·]) hr
  quiet := by
    rw [asked_answer]
    exact List.forall_mem_append.2 ⟨h.quiet, List.forall_mem_singleton.2 hquiet⟩

/-- a warning that the cache has failed is all that one of the runs has more -/
theorem Matched.blamed {n : Note} (h : Matched w v) (hn : blamesCache n = true) :
    Matched { w with asked := w.asked ++ [.note n] } v where
  partners := h.partners
  asked := by
    have hkept : ¬(Ask.note n).kept = true := by simp [Ask.kept, Ask.note?, hn]
    rw [List.filter_append, List.filter_cons_of_neg hkept]
    simpa using h.asked
  quiet := h.quiet

/-- a request that both programs make, up to times -/
theorem parallel_ask {R : r.Reply → r'.Reply → Prop} (hr : r.timeless = r'.timeless) (hkept : r.kept = true)
    (hquiet : r'.Quiet) (h : ∀ (w : Session σ κ) (v : Session σ Unit), w.partners = v.partners →
      R (w.answer partners server clock r).1 (v.answer partners .none clock' r').1 ∧
        (w.answer partners server clock r).2.partners = (v.answer partners .none clock' r').2.partners) :
    Parallel partners server clock clock' R (ask r) (ask r') := by
  intro w v hmatched
  obtain ⟨hreply, hpartners⟩ := h w v hmatched.partners
  exact ⟨hreply, hmatched.answer hr hkept hquiet hpartners⟩

theorem parallel_now : Parallel partners server clock clock' (fun _ _ => True) (ask .now) (ask .now) :=
  parallel_ask rfl rfl trivial fun _ _ h => ⟨trivial, h⟩

theorem parallel_note {n : Note} (hn : blamesCache n = false) :
    Parallel partners server clock clock' (fun _ _ => True) (note n) (note n) := by
  have hkept : (Ask.note n).kept = true := by simp [Ask.kept, Ask.note?, hn]
  change Parallel partners server clock clock' (fun _ _ => True) (ask (.note n)) (ask (.note n))
  exact parallel_ask rfl hkept trivial fun _ _ h => ⟨trivial, h⟩

/-- a partner replies to both by its own state, which is the same -/
theorem parallel_partner (reply : σ → r.Reply × σ) (hkept : r.kept = true) (hquiet : r.Quiet)
    (h : ∀ (w : Session σ κ), (w.answer partners server clock r).1 = (reply w.partners).1 ∧
      (w.answer partners server clock r).2.partners = (reply w.partners).2)
    (h' : ∀ (v : Session σ Unit), (v.answer partners .none clock' r).1 = (reply v.partners).1 ∧
      (v.answer partners .none clock' r).2.partners = (reply v.partners).2) :
    Parallel partners server clock clock' Eq (ask r) (ask r) := by
  refine parallel_ask rfl hkept hquiet fun w v hsame => ?_
  rw [(h w).1, (h w).2, (h' v).1, (h' v).2, hsame]
  exact ⟨rfl, rfl⟩

theorem parallel_readStored (username : String) :
    Parallel partners server clock clock' Eq (ask (.readStored username)) (ask (.readStored username)) :=
  parallel_partner (partners.readStored username) rfl trivial (fun _ => ⟨rfl, rfl⟩) fun _ => ⟨rfl, rfl⟩

theorem parallel_save (s : Snapshot) : Parallel partners server clock clock' Eq (ask (.save s)) (ask (.save s)) :=
  parallel_partner (partners.save s) rfl trivial (fun _ => ⟨rfl, rfl⟩) fun _ => ⟨rfl, rfl⟩

theorem parallel_fetch (username : String) :
    Parallel partners server clock clock' Eq (ask (.fetch username)) (ask (.fetch username)) :=
  parallel_partner (partners.fetch username) rfl trivial (fun _ => ⟨rfl, rfl⟩) fun _ => ⟨rfl, rfl⟩

theorem parallel_publish {event event' : Banner.Event} (hevent : event.timeless = event'.timeless) :
    Parallel partners server clock clock' Eq (ask (.publish event)) (ask (.publish event')) := by
  refine parallel_ask (congrArg Ask.publish hevent) rfl trivial fun w v h => ?_
  have hreply : partners.publish event.timeless w.partners = partners.publish event'.timeless v.partners := by
    rw [hevent, h]
  exact ⟨congrArg Prod.fst hreply, congrArg Prod.snd hreply⟩

/-! ## Where the cache is asked -/

/-- what is said of a write to the cache -/
def noteWrite (username : String) : Except Cache.CacheError Unit → Program Calls Unit
  | .ok () => return ()
  | .error err => note (.warn "Failed to cache stats" [("username", username), ("error", err.text)])

theorem storeInCache_eq (username : String) (e : Entry) (ttl : Duration) :
    storeInCache username e ttl = Program.ask (I := Calls) (.cacheSet username e ttl) (noteWrite username) := by
  refine congrArg (@Program.ask Calls _ (.cacheSet username e ttl)) (funext fun x => ?_)
  cases x <;> rfl

/-- a failed write is warned of, and that is all -/
theorem parallel_storeInCache (hbroken : server.Broken) (username : String) {e e' : Entry}
    (he : e.timeless = e'.timeless) (ttl : Duration) :
    Parallel partners server clock clock' (fun _ _ => True) (storeInCache username e ttl)
      (storeInCache username e' ttl) := by
  intro w v h
  obtain ⟨err, herr⟩ := hbroken.set w.asked.length username e ttl w.cache
  let written := (w.answer partners server clock (.cacheSet username e ttl)).2
  let warning : Ask := .note (.warn "Failed to cache stats" [("username", username), ("error", err.text)])
  have hwritten : Matched written (v.answer partners .none clock' (.cacheSet username e' ttl)).2 :=
    h.answer (congrArg (Ask.cacheSet username · ttl) he) rfl trivial h.partners
  have hwarned : (storeInCache username e ttl).run (Session.answer partners server clock) w =
      ((), { written with asked := written.asked ++ [warning] }) := by
    rw [storeInCache_eq]
    change Program.run _ (noteWrite username (server.set w.asked.length username e ttl w.cache).1) written = _
    rw [herr]
    rfl
  rw [hwarned]
  exact ⟨trivial, hwritten.blamed rfl⟩

/-- a failed read is warned of, and the look-up goes on behind the cache -/
theorem parallel_getEntry_of (hbroken : server.Broken) {R : Except Failure Entry → Except Failure Entry → Prop}
    (policy : FreshnessPolicy) (username : String)
    (hbehind : Parallel partners server clock clock' R (lookupBehindCache policy username)
      (lookupBehindCache policy username)) :
    Parallel partners server clock clock' R (getEntry policy username) (getEntry policy username) := by
  intro w v h
  obtain ⟨err, herr⟩ := hbroken.get w.asked.length username w.cache
  let missed := (w.answer partners server clock (.cacheGet username)).2
  let warning : Ask := .note (.warn "Stats cache read failed" [("username", username), ("error", err.text)])
  have hmissed : Matched missed (v.answer partners .none clock' (.cacheGet username)).2 :=
    h.answer rfl rfl trivial h.partners
  have hwarned : (getEntry policy username).run (Session.answer partners server clock) w =
      (lookupBehindCache policy username).run (Session.answer partners server clock)
        { missed with asked := missed.asked ++ [warning] } := by
    rw [getEntry_eq]
    change Program.run _ (byReply policy username (server.get w.asked.length username w.cache).1) missed = _
    rw [herr]
    rfl
  rw [hwarned]
  exact hbehind _ _ (hmissed.blamed rfl)

/-! ## Calls -/

/-- results that are the same up to the time -/
inductive SameEntry : Except Failure Entry → Except Failure Entry → Prop where
  | failed (f : Failure) : SameEntry (.error f) (.error f)
  | found {e e' : Entry} : e.timeless = e'.timeless → SameEntry (.ok e) (.ok e')

/-- statistics are cached and returned, with the times that the clocks show -/
theorem parallel_cached (hbroken : server.Broken) (username : String) (stats : Stats) (ttl : Duration) :
    Parallel partners server clock clock' SameEntry
      (do let e : Entry := ⟨stats, ← ask .now⟩; storeInCache username e ttl; return .ok e)
      (do let e : Entry := ⟨stats, ← ask .now⟩; storeInCache username e ttl; return .ok e) := by
  refine parallel_now.bind fun now now' _ => ?_
  have he : (⟨stats, now⟩ : Entry).timeless = (⟨stats, now'⟩ : Entry).timeless := rfl
  exact (parallel_storeInCache hbroken username he ttl).bind fun _ _ _ => parallel_done (.found he)

theorem parallel_noteSave (username : String) (saved : Except Failure Unit) :
    Parallel partners server clock clock' (fun _ _ => True) (noteSave username saved) (noteSave username saved) := by
  cases saved with
  | ok _ => exact parallel_done trivial
  | error f =>
    rw [noteSave]
    split
    · exact parallel_note (by simp [blamesCache, Note.debug])
    · exact parallel_note (by simp [blamesCache, Note.warn])

theorem parallel_pipeline (hbroken : server.Broken) (username : String) (ttl : Duration) :
    Parallel partners server clock clock' SameEntry (pipeline username ttl) (pipeline username ttl) := by
  refine (parallel_fetch username).bind fun fetched _ hfetched => ?_
  subst hfetched
  cases fetched with
  | error f => exact parallel_done (.failed f)
  | ok snapshot =>
    refine (parallel_save snapshot).bind fun saved _ hsaved => ?_
    subst hsaved
    refine (parallel_noteSave username saved).bind fun _ _ _ => ?_
    exact parallel_cached hbroken username (Stats.ofRepositories snapshot.repositories) ttl

theorem parallel_syncNow (hbroken : server.Broken) (policy : FreshnessPolicy) (username : String) :
    Parallel partners server clock clock' SameEntry (syncNow policy username) (syncNow policy username) := by
  refine (parallel_pipeline hbroken username policy.hard).bind fun r r' hresult => ?_
  cases hresult with
  | failed f => exact parallel_done (.failed f)
  | found he => exact (parallel_note rfl).bind fun _ _ _ => parallel_done (.found he)

theorem parallel_noteReadFailure (username : String) (f : Failure) :
    Parallel partners server clock clock' (fun _ _ => True) (noteReadFailure username f)
      (noteReadFailure username f) := by
  rw [noteReadFailure]
  split
  · exact parallel_note (by simp [blamesCache, Note.debug])
  · exact parallel_note (by simp [blamesCache, Note.warn])

theorem parallel_lookupBehindCache (hbroken : server.Broken) (policy : FreshnessPolicy) (username : String) :
    Parallel partners server clock clock' SameEntry (lookupBehindCache policy username)
      (lookupBehindCache policy username) := by
  refine (parallel_note rfl).bind fun _ _ _ => ?_
  refine (parallel_readStored username).bind fun stored _ hstored => ?_
  subst hstored
  cases stored with
  | ok snapshot => exact parallel_cached hbroken username (Stats.ofRepositories snapshot.repositories) policy.hard
  | error f =>
    exact (parallel_noteReadFailure username f).bind fun _ _ _ => parallel_syncNow hbroken policy username

theorem parallel_getEntry (hbroken : server.Broken) (policy : FreshnessPolicy) (username : String) :
    Parallel partners server clock clock' SameEntry (getEntry policy username) (getEntry policy username) :=
  parallel_getEntry_of hbroken policy username (parallel_lookupBehindCache hbroken policy username)

theorem SameEntry.timeless {r r' : Except Failure Entry} (h : SameEntry r r') :
    r.map Entry.timeless = r'.map Entry.timeless := by
  cases h with
  | failed f => rfl
  | found he => exact congrArg Except.ok he

/-- the statistics themselves do not depend on the clock -/
theorem SameEntry.stats {r r' : Except Failure Entry} (h : SameEntry r r') :
    r.map Entry.stats = r'.map Entry.stats := by
  cases h with
  | failed f => rfl
  | found he => exact congrArg Except.ok (Entry.stats_eq_of_timeless he)

/-- results that are the same up to times -/
def SameResult (r r' : ServiceResult) : Prop := r.timeless = r'.timeless

theorem parallel_publishing (hbroken : server.Broken) (policy : FreshnessPolicy) (username : String)
    (layout : Banner.Layout) (path : String) :
    Parallel partners server clock clock' (fun r r' => SameResult (.event r) (.event r'))
      (Banner.publish policy username layout path) (Banner.publish policy username layout path) := by
  refine (parallel_getEntry hbroken policy username).bind fun r r' hresult => ?_
  cases hresult with
  | failed f => exact parallel_done rfl
  | @found e e' he =>
    refine parallel_now.bind fun now now' _ => ?_
    have hevent : (Banner.Event.ofBanner ⟨username, layout, path, e.stats, e.updatedAt⟩ now).timeless =
        (Banner.Event.ofBanner ⟨username, layout, path, e'.stats, e'.updatedAt⟩ now').timeless :=
      congrArg (fun stats => Banner.Event.ofBanner ⟨username, layout, path, stats, .epoch⟩ .epoch)
        (Entry.stats_eq_of_timeless he)
    refine (parallel_publish hevent).bind fun delivered _ hdelivered => ?_
    subst hdelivered
    cases delivered with
    | error err => exact (parallel_note (by simp [blamesCache, Note.error])).bind fun _ _ _ => parallel_done rfl
    | ok _ => exact (parallel_note rfl).bind fun _ _ _ => parallel_done (congrArg (ServiceResult.event ∘ .ok) hevent)

theorem parallel_call (hbroken : server.Broken) (policy : FreshnessPolicy) (call : Call) :
    Parallel partners server clock clock' SameResult (call.program policy) (call.program policy) := by
  cases call with
  | getEntry username =>
    refine (parallel_getEntry hbroken policy username).bind fun r r' hresult => parallel_done ?_
    exact congrArg ServiceResult.entry hresult.timeless
  | getStats username =>
    refine Parallel.bind ?_ fun r r' (hresult : r = r') => parallel_done (congrArg ServiceResult.stats hresult)
    exact (parallel_getEntry hbroken policy username).bind fun r r' hresult => parallel_done hresult.stats
  | recalculate username =>
    refine Parallel.bind ?_ fun r r' (hresult : r = r') => parallel_done (congrArg ServiceResult.stats hresult)
    exact (parallel_syncNow hbroken policy username).bind fun r r' hresult => parallel_done hresult.stats
  | resync username ttl =>
    refine Parallel.bind ?_ fun r r' (hresult : r = r') => parallel_done (congrArg ServiceResult.unit hresult)
    refine (parallel_pipeline hbroken username ttl).bind fun r r' hresult => ?_
    cases hresult with
    | failed f => exact parallel_done rfl
    | found he => exact parallel_done rfl
  | publish username layout path =>
    exact (parallel_publishing hbroken policy username layout path).bind fun r r' hresult => parallel_done hresult

theorem parallel_calls (hbroken : server.Broken) (policy : FreshnessPolicy) (calls : List Call) :
    Parallel partners server clock clock' (List.Forall₂ SameResult) (calls.mapM (Call.program policy))
      (calls.mapM (Call.program policy)) := by
  induction calls with
  | nil => exact parallel_done .nil
  | cons call calls ih =>
    rw [List.mapM_cons]
    refine (parallel_call hbroken policy call).bind fun r r' hresult => ?_
    exact ih.bind fun rs rs' hresults => parallel_done (.cons hresult hresults)

end Parallel

/-! ## Broken or absent -/

/-- two runs that only the warnings of the first tell apart: their results are the same up to times, so are the calls of
the partners, in their order, and neither has started a refresh -/
structure ToldApartByWarnings {κ' : Type} (a : List ServiceResult × Session σ κ)
    (b : List ServiceResult × Session σ κ') : Prop where
  results : a.1.map ServiceResult.timeless = b.1.map ServiceResult.timeless
  calls : partnerCalls a.2.asked = partnerCalls b.2.asked
  partners : a.2.partners = b.2.partners
  journal : (journal a.2.asked).filter (!blamesCache ·) = journal b.2.asked
  refreshes : (∀ r ∈ a.2.asked, r.Quiet) ∧ ∀ r ∈ b.2.asked, r.Quiet

theorem quiet_timeless (r : Ask) : r.timeless.Quiet ↔ r.Quiet := by
  cases r <;> rfl

theorem partnerCalls_eq_filter (asked : List Ask) :
    partnerCalls asked = (asked.map Ask.timeless).filter Ask.toPartner := by
  have hsame : Ask.toPartner ∘ Ask.timeless = Ask.toPartner := by
    funext r
    cases r <;> rfl
  rw [partnerCalls, List.filter_map, hsame]

theorem journal_timeless (asked : List Ask) : journal (asked.map Ask.timeless) = journal asked := by
  have hsame : Ask.note? ∘ Ask.timeless = Ask.note? := by
    funext r
    cases r <;> rfl
  rw [journal, List.filterMap_map, hsame, journal]

/-- partners are not warned -/
theorem partnerCalls_kept (asked : List Ask) : partnerCalls (asked.filter Ask.kept) = partnerCalls asked := by
  have hkept : (fun r : Ask => r.toPartner && r.kept) = Ask.toPartner := by
    funext r
    cases r <;> rfl
  rw [partnerCalls, List.filter_filter, hkept, partnerCalls]

theorem journal_kept (asked : List Ask) :
    journal (asked.filter Ask.kept) = (journal asked).filter (!blamesCache ·) := by
  rw [journal, journal, List.filterMap_filter, List.filter_filterMap]
  refine congrArg (List.filterMap · asked) (funext fun r => ?_)
  unfold Ask.kept
  cases r.note? with
  | none => rfl
  | some n => cases hn : blamesCache n <;> simp [hn, Option.filter_some]

namespace Matched

variable {κ' : Type} {w : Session σ κ} {v : Session σ κ'}

theorem partnerCalls_eq (h : Matched w v) : partnerCalls w.asked = partnerCalls v.asked := by
  rw [← partnerCalls_kept, partnerCalls_eq_filter, h.asked, ← partnerCalls_eq_filter]

theorem journal_eq (h : Matched w v) : (journal w.asked).filter (!blamesCache ·) = journal v.asked := by
  rw [← journal_kept, ← journal_timeless, h.asked, journal_timeless]

theorem quiet_left (h : Matched w v) : ∀ r ∈ w.asked, r.Quiet := by
  intro r hr
  by_cases hkept : r.kept = true
  · have hmem : r.timeless ∈ v.asked.map Ask.timeless := by
      rw [← h.asked]
      exact List.mem_map_of_mem (List.mem_filter.2 ⟨hr, hkept⟩)
    obtain ⟨r', hr', hsame⟩ := List.mem_map.1 hmem
    rw [← quiet_timeless, ← hsame, quiet_timeless]
    exact h.quiet r' hr'
  · cases r with
    | note n => trivial
    | _ => exact absurd rfl hkept

end Matched

/-- **A cache that always fails is like no cache**: the same calls come to the same, with the same calls of the partners
in the same order, whatever those reply; only the warnings tell the two apart. -/
theorem broken_cache_as_none (partners : Partners σ) (server : CacheServer κ) (hbroken : server.Broken)
    (policy : FreshnessPolicy) (calls : List Call) (clock clock' : Nat → Time.Instant) (s : σ) (k : κ) :
    ToldApartByWarnings (serve partners server clock policy calls s k)
      (serve partners .none clock' policy calls s ()) := by
  obtain ⟨hresults, hmatched⟩ := parallel_calls hbroken policy calls _ _ (matched_start policy s k ())
  have hsame : (serve partners server clock policy calls s k).1.map ServiceResult.timeless =
      (serve partners .none clock' policy calls s ()).1.map ServiceResult.timeless := by
    rw [← List.forall₂_eq_eq_eq, List.forall₂_map_left_iff, List.forall₂_map_right_iff]
    exact hresults
  exact ⟨hsame, hmatched.partnerCalls_eq, hmatched.partners, hmatched.journal_eq,
    hmatched.quiet_left, hmatched.quiet⟩

/-- a cache that is down -/
def CacheServer.down : CacheServer Unit where
  get _ _ k := (.error (.connection "down"), k)
  set _ _ _ _ k := (.error (.operation "down"), k)
  delete _ _ k := (.ok (), k)

/-- a store that keeps what it is given, a GitHub where accounts have no repositories, and a publisher that delivers -/
def keepers : Partners (List Snapshot) where
  readStored u kept := (((kept.find? fun s => s.username == u).elim (.error (.accountNotStored u)) .ok), kept)
  save s kept := (.ok (), s :: kept)
  fetch u kept := (.ok (.ofRepositories u [] .epoch), kept)
  publish _ kept := (.ok (), kept)

/-- a look-up that fetches, and a banner from the store: each asks the cache in vain for a read and for a write -/
theorem broken_cache_as_none_down :
    let calls : List Call := [.getEntry "ann", .publish "ann" .wide "banners/ann.svg"]
    let broken := serve keepers .down (fun _ => .epoch) .standard calls [] ()
    CacheServer.down.Broken ∧ ((journal broken.2.asked).filter blamesCache).length = 4 ∧
      ToldApartByWarnings broken (serve keepers .none (fun _ => .epoch) .standard calls [] ()) := by
  have hdown : CacheServer.down.Broken := ⟨fun _ _ _ => ⟨_, rfl⟩, fun _ _ _ _ _ => ⟨_, rfl⟩⟩
  exact ⟨hdown, by decide +kernel, broken_cache_as_none keepers .down hdown .standard _ _ _ [] ()⟩

end Sync

end AccountStats
