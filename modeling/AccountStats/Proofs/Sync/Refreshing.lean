import Mathlib.Tactic
import AccountStats.Cache.Memory
import AccountStats.Sync.Background
import AccountStats.Proofs.Sync.Requests
/-
Look-ups and the refreshes behind them, in any order.

Calls begin at any moment and go on step by step, and so do the refreshes that they start. The time of a refresh may be
over at any moment before its place is given back; what it has not done by then, it leaves undone. The cache may be any,
and what comes from outside is whatever it is at each moment. Results:
- `step?_call`, `step?_refresh`, `step?_timeOver`: all that a move can do;
- `sound_of_run`: in every reachable state every program has got to where it is by its own exchanges, and each refresh
  that is not over has one of the places;
- `refreshes_bounded`: places, refreshes and cache, after any run.
-/
namespace AccountStats.Sync

open Program (Exchange Leads)

/-! ## The surroundings -/

/-- a cache, whatever it is: how it replies at a time of its clock, and what it is then -/
structure CacheServer (κ : Type) where
  get : Nat → String → κ → Except Cache.CacheError (Option Entry) × κ
  set : Nat → String → Entry → Duration → κ → Except Cache.CacheError Unit × κ
  delete : Nat → String → κ → Except Cache.CacheError Unit × κ

/-- what the outside has to say at one moment: the time, also on the clock of the cache, and the replies of the store,
of GitHub and of the publisher -/
structure Outside where
  now : Time.Instant
  clock : Nat
  stored : Except Failure Snapshot
  saved : Except Failure Unit
  fetched : Except Failure Snapshot
  published : Except Banner.PublishError Unit

/-- what calls and refreshes share -/
structure World (κ : Type) where
  background : Background
  cache : κ

variable {κ : Type}

/-- the cache answers what is about entries, the places answer what is about them, and the outside the rest -/
def World.answer (server : CacheServer κ) (o : Outside) (r : Ask) (w : World κ) : r.Reply × World κ :=
  match r with
  | .now => (o.now, w)
  | .cacheGet u => ((server.get o.clock u w.cache).1, { w with cache := (server.get o.clock u w.cache).2 })
  | .cacheSet u e ttl =>
    ((server.set o.clock u e ttl w.cache).1, { w with cache := (server.set o.clock u e ttl w.cache).2 })
  | .cacheDelete u => ((server.delete o.clock u w.cache).1, { w with cache := (server.delete o.clock u w.cache).2 })
  | .readStored _ => (o.stored, w)
  | .save _ => (o.saved, w)
  | .fetch _ => (o.fetched, w)
  | .startRefresh _ => (w.background.start.1, { w with background := w.background.start.2 })
  | .endRefresh => ((), { w with background := w.background.finish })
  | .publish _ => (o.published, w)
  | .note _ => ((), w)

/-! ## Calls and refreshes -/

/-- a call on its way: for which account, its exchanges so far, and what is left of it -/
structure Lookup where
  username : String
  past : List (Exchange Calls)
  rest : Program Calls (Except Failure Entry)

namespace Lookup

/-- a look-up has found an entry that is stale, and asks for a refresh next -/
def AtStaleHit (policy : FreshnessPolicy) (c : Lookup) (e : Entry) : Prop :=
  ∃ now, policy.classify e.updatedAt now = .stale ∧ c.past = staleHit c.username e now ∧
    c.rest = afterStaleHit c.username e

/-- a look-up that has been told whether a refresh was started: a stale entry is its result, and all that is left is to
note a refresh for which there was no place -/
def answered (c : Lookup) (e : Entry) (granted : Bool) : Lookup :=
  ⟨c.username, c.past ++ [⟨.startRefresh c.username, granted⟩],
    noteSkip c.username granted >>= fun _ => .done (.ok e)⟩

end Lookup

/-- a refresh on its way; it is late once its time was over -/
structure Refresh where
  username : String
  past : List (Exchange Calls)
  late : Bool
  rest : Program Calls Unit

namespace Refresh

def start (policy : FreshnessPolicy) (username : String) : Refresh := ⟨username, [], false, refresh policy username⟩

/-- whether a refresh is not over -/
def inFlight (r : Refresh) : Bool :=
  match r.rest with
  | .done _ => false
  | .ask _ _ => true

end Refresh

/-- the refresh that is started, if a place was free for one -/
def started (policy : FreshnessPolicy) : Exchange Calls → List Refresh
  | ⟨.startRefresh username, true⟩ => [.start policy username]
  | _ => []

/-- the service: its calls and its refreshes so far, with those that are over -/
structure Service (κ : Type) where
  world : World κ
  lookups : List Lookup
  refreshes : List Refresh

inductive Move where
  /-- a look-up is asked for -/
  | enter (username : String)
  /-- a look-up goes on -/
  | call (k : Nat) (o : Outside)
  /-- a refresh goes on -/
  | refresh (j : Nat) (o : Outside)
  /-- the time of a refresh is over -/
  | timeOver (j : Nat)

/-- a move of the refresh with this number -/
def Move.IsOf (m : Move) (j : Nat) : Prop :=
  match m with
  | .refresh i _ | .timeOver i => i = j
  | .enter _ | .call _ _ => False

namespace Service

def start (policy : FreshnessPolicy) (cache : κ) : Service κ := ⟨⟨.init policy, cache⟩, [], []⟩

variable (server : CacheServer κ) (policy : FreshnessPolicy)

def step? (s : Service κ) : Move → Option (Service κ)
  | .enter username => some { s with lookups := s.lookups ++ [⟨username, [], getEntry policy username⟩] }
  | .call k o => match s.lookups[k]? with
    | some ⟨username, past, .ask r next⟩ =>
      let (x, world) := World.answer server o r s.world
      some ⟨world, s.lookups.set k ⟨username, past ++ [⟨r, x⟩], next x⟩, s.refreshes ++ started policy ⟨r, x⟩⟩
    | _ => none
  | .refresh j o => match s.refreshes[j]? with
    | some ⟨username, past, late, .ask r next⟩ =>
      let (x, world) := World.answer server o r s.world
      some ⟨world, s.lookups, s.refreshes.set j ⟨username, past ++ [⟨r, x⟩], late, next x⟩ ++ started policy ⟨r, x⟩⟩
    | _ => none
  | .timeOver j => match s.refreshes[j]? with
    | some ⟨username, past, false, .ask _ _⟩ =>
      some { s with refreshes := s.refreshes.set j ⟨username, past, true, refreshLate policy username⟩ }
    | _ => none

def run? (s : Service κ) : List Move → Option (Service κ)
  | [] => some s
  | m :: moves => (s.step? server policy m).bind fun s => s.run? moves

variable {server policy} {s t : Service κ} {m : Move} {moves : List Move} {j k : Nat} {o : Outside}

theorem step?_call (h : s.step? server policy (.call k o) = some t) :
    ∃ username past r next, s.lookups[k]? = some ⟨username, past, .ask r next⟩ ∧
      t = ⟨(World.answer server o r s.world).2,
        s.lookups.set k ⟨username, past ++ [⟨r, (World.answer server o r s.world).1⟩],
          next (World.answer server o r s.world).1⟩,
        s.refreshes ++ started policy ⟨r, (World.answer server o r s.world).1⟩⟩ := by
  rw [step?] at h
  split at h
  · next username past r next hk => exact ⟨username, past, r, next, hk, (Option.some.inj h).symm⟩
  · cases h

theorem step?_refresh (h : s.step? server policy (.refresh j o) = some t) :
    ∃ username past late r next, s.refreshes[j]? = some ⟨username, past, late, .ask r next⟩ ∧
      t = ⟨(World.answer server o r s.world).2, s.lookups,
        s.refreshes.set j ⟨username, past ++ [⟨r, (World.answer server o r s.world).1⟩], late,
          next (World.answer server o r s.world).1⟩ ++ started policy ⟨r, (World.answer server o r s.world).1⟩⟩ := by
  rw [step?] at h
  split at h
  · next username past late r next hj => exact ⟨username, past, late, r, next, hj, (Option.some.inj h).symm⟩
  · cases h

theorem step?_timeOver (h : s.step? server policy (.timeOver j) = some t) :
    ∃ username past r next, s.refreshes[j]? = some ⟨username, past, false, .ask r next⟩ ∧
      t = { s with refreshes := s.refreshes.set j ⟨username, past, true, refreshLate policy username⟩ } := by
  rw [step?] at h
  split at h
  · next username past r next hj => exact ⟨username, past, r, next, hj, (Option.some.inj h).symm⟩
  · cases h

theorem run?_cons {u : Service κ} : s.run? server policy (m :: moves) = some u ↔
    ∃ t, s.step? server policy m = some t ∧ t.run? server policy moves = some u := by
  rw [run?, Option.bind_eq_some_iff]

theorem run?_append {u : Service κ} {later : List Move} : s.run? server policy (moves ++ later) = some u ↔
    ∃ t, s.run? server policy moves = some t ∧ t.run? server policy later = some u := by
  induction moves generalizing s with
  | nil =>
    constructor
    · intro h
      exact ⟨s, rfl, h⟩
    · rintro ⟨t, ht, h⟩
      cases ht
      exact h
  | cons m moves ih =>
    rw [List.cons_append, run?_cons]
    constructor
    · rintro ⟨v, hv, h⟩
      obtain ⟨t, ht, htu⟩ := ih.1 h
      exact ⟨t, run?_cons.2 ⟨v, hv, ht⟩, htu⟩
    · rintro ⟨t, ht, htu⟩
      obtain ⟨v, hv, hvt⟩ := run?_cons.1 ht
      exact ⟨v, hv, ih.2 ⟨t, hvt, htu⟩⟩

/-- what every move preserves, every run preserves -/
theorem run_preserves {P : Service κ → Prop} (hstep : ∀ s m t, s.step? server policy m = some t → P s → P t)
    (hrun : s.run? server policy moves = some t) (hs : P s) : P t := by
  induction moves generalizing s with
  | nil =>
    cases hrun
    exact hs
  | cons m moves ih =>
    obtain ⟨u, hu, hrun⟩ := run?_cons.1 hrun
    exact ih hrun (hstep s m u hu hs)

end Service

/-! ## Requests and places -/

section Places

variable {server : CacheServer κ} {policy : FreshnessPolicy} {o : Outside} {r : Ask} {w : World κ}

theorem answer_quiet (hr : r.Quiet) : (World.answer server o r w).2.background = w.background := by
  cases r with
  | startRefresh _ => cases hr
  | endRefresh => cases hr
  | _ => rfl

theorem started_quiet (hr : r.Quiet) (x : r.Reply) : started policy ⟨r, x⟩ = [] := by
  cases r with
  | startRefresh _ => cases hr
  | _ => rfl

theorem started_endRefresh (x : Unit) : started policy ⟨.endRefresh, x⟩ = [] := rfl

theorem started_startRefresh (username : String) (granted : Bool) :
    started policy ⟨.startRefresh username, granted⟩ = if granted then [.start policy username] else [] := by
  cases granted <;> rfl

theorem start_granted (b : Background) : b.start.1 = decide (0 < b.free) := by
  rw [Background.start]
  split
  · next hfree => exact (decide_eq_true hfree).symm
  · next hfull => exact (decide_eq_false hfull).symm

/-- a free place is taken, or there is none and nothing changes -/
theorem start_places (b : Background) : b.start.2.free + b.start.2.running = b.free + b.running ∧
    b.start.2.running = b.running + if b.start.1 then 1 else 0 := by
  rw [Background.start]
  split
  · next hfree =>
    refine ⟨?_, rfl⟩
    dsimp only
    omega
  · exact ⟨rfl, rfl⟩

/-- a refresh leaves the entries of the cache alone but for its write -/
theorem answer_cache {username : String} {es : List (Exchange Calls)} (hr : RefreshAsks username es r)
    (hset : ∀ u e ttl, r ≠ .cacheSet u e ttl) : (World.answer server o r w).2.cache = w.cache := by
  cases r with
  | cacheGet u => cases hr
  | cacheDelete u => cases hr
  | cacheSet u e ttl => exact absurd rfl (hset u e ttl)
  | _ => rfl

end Places

/-! ## Where a refresh has got to -/

namespace Refresh

variable {policy : FreshnessPolicy} {r : Refresh} {q : Ask} {next : q.Reply → Program Calls Unit}

/-- a refresh has got to where it is by its own exchanges; if it is late, by those since its time was over -/
inductive Led (policy : FreshnessPolicy) : Refresh → Prop where
  | inTime {username : String} {past : List (Exchange Calls)} {rest : Program Calls Unit} :
      (refresh policy username).Leads past rest → Led policy ⟨username, past, false, rest⟩
  | late {username : String} {before since : List (Exchange Calls)} {q : Ask} {next : q.Reply → Program Calls Unit}
      {rest : Program Calls Unit} : (refresh policy username).Leads before (Program.ask (I := Calls) q next) →
      (refreshLate policy username).Leads since rest → Led policy ⟨username, before ++ since, true, rest⟩

theorem led_start (policy : FreshnessPolicy) (username : String) : Led policy (start policy username) :=
  .inTime (.rest _)

theorem Led.snoc {username : String} {past : List (Exchange Calls)} {late : Bool}
    (h : Led policy ⟨username, past, late, Program.ask (I := Calls) q next⟩) (x : q.Reply) :
    Led policy ⟨username, past ++ [⟨q, x⟩], late, next x⟩ := by
  cases h with
  | inTime h => exact .inTime (h.snoc x)
  | late hbefore hsince =>
    rw [List.append_assoc]
    exact .late hbefore (hsince.snoc x)

/-- a refresh is over just if it has given its place back -/
theorem Led.givesBack (h : Led policy r) :
    (GivesBack r.rest ∧ ∀ e ∈ r.past, e.request.Quiet) ∨ (r.rest = .done () ∧ ⟨.endRefresh, ()⟩ ∈ r.past) := by
  cases h with
  | inTime h => exact (refresh_givesBack policy _).of_leads h
  | @late username before since q next rest hbefore hsince =>
    have hquiet : ∀ e ∈ before, e.request.Quiet := by
      rcases (refresh_givesBack policy _).of_leads hbefore with ⟨-, hquiet⟩ | ⟨hdone, -⟩
      · exact hquiet
      · cases hdone
    rcases (refreshLate_givesBack policy _).of_leads hsince with ⟨hrest, hsince⟩ | ⟨hrest, hback⟩
    · exact Or.inl ⟨hrest, List.forall_mem_append.2 ⟨hquiet, hsince⟩⟩
    · exact Or.inr ⟨hrest, List.mem_append_right _ hback⟩

theorem inFlight_of_givesBack (h : GivesBack r.rest) : r.inFlight = true := by
  obtain ⟨username, past, late, rest⟩ := r
  cases h <;> rfl

theorem Led.over_iff (h : Led policy r) : r.inFlight = false ↔ ⟨.endRefresh, ()⟩ ∈ r.past := by
  rcases h.givesBack with ⟨hrest, hquiet⟩ | ⟨hrest, hback⟩
  · rw [inFlight_of_givesBack hrest]
    refine iff_of_false nofun fun hback => ?_
    exact hquiet _ hback
  · rw [inFlight, hrest]
    exact iff_of_true rfl hback

theorem Led.length_past (h : Led policy r) : r.past.length ≤ 10 := by
  cases h with
  | inTime h => exact (refresh_within policy _ _ _ h).trans (by decide)
  | late hbefore hsince =>
    rw [List.length_append]
    exact Nat.add_le_add (refresh_within policy _ _ _ hbefore) (refreshLate_within policy _ _ _ hsince)

theorem Led.asks {username : String} {past : List (Exchange Calls)} {late : Bool}
    (h : Led policy ⟨username, past, late, Program.ask (I := Calls) q next⟩) : ∃ es, RefreshAsks username es q := by
  cases h with
  | inTime h => exact ⟨past, refresh_asks policy username _ _ _ h⟩
  | late hbefore hsince => exact ⟨[], (refreshLate_asks policy username _ _ _ hsince).refreshAsks []⟩

/-- a refresh that never gets to write: its fetch failed, or its time was over before -/
def WritesNothing (r : Refresh) : Prop :=
  (∃ u f, ⟨.fetch u, .error f⟩ ∈ r.past) ∨ (r.late = true ∧ ∀ u e ttl x, ⟨.cacheSet u e ttl, x⟩ ∉ r.past)

/-- a refresh whose fetch failed writes nothing to the cache -/
theorem Led.unwritten {u v : String} {e : Entry} {ttl : Duration} {x : Except Cache.CacheError Unit} {f : Failure}
    (h : Led policy r) (hfailed : ⟨.fetch u, .error f⟩ ∈ r.past) : ⟨.cacheSet v e ttl, x⟩ ∉ r.past := by
  have hinTime : ∀ {username : String} {es : List (Exchange Calls)} {p : Program Calls Unit},
      (refresh policy username).Leads es p → ⟨.fetch u, .error f⟩ ∈ es → ⟨.cacheSet v e ttl, x⟩ ∉ es := by
    intro username es p hleads hfetch hset
    obtain ⟨before, after, hes⟩ := List.append_of_mem hset
    obtain ⟨-, snapshot, hhead⟩ := (refresh_asks policy username).of_leads (hes ▸ hleads)
    obtain ⟨earlier, later, hes'⟩ := List.append_of_mem hfetch
    obtain ⟨-, hfirst⟩ := (refresh_asks policy username).of_leads (hes' ▸ hleads)
    have hhead' : es.head? = some ⟨.fetch u, .error f⟩ := by rw [hes', hfirst]; rfl
    rw [hes, List.head?_append, hhead] at hhead'
    cases hhead'
  cases h with
  | inTime h => exact hinTime h hfailed
  | @late username before since q next rest hbefore hsince =>
    have hending : ∀ e ∈ since, e.request.Ending := by
      intro e he
      obtain ⟨earlier, later, rfl⟩ := List.append_of_mem he
      exact (refreshLate_asks policy _).of_leads hsince
    intro hset
    rcases List.mem_append.1 hfailed with hfailed | hfailed
    · rcases List.mem_append.1 hset with hset | hset
      · exact hinTime hbefore hfailed hset
      · exact hending _ hset
    · exact hending _ hfailed

theorem Led.not_written {u : String} {e : Entry} {ttl : Duration}
    {x : Except Cache.CacheError Unit} (h : r.Led policy) (hr : r.WritesNothing) : ⟨.cacheSet u e ttl, x⟩ ∉ r.past := by
  rcases hr with ⟨v, f, hfailed⟩ | ⟨-, hnot⟩
  · exact h.unwritten hfailed
  · exact hnot u e ttl x

end Refresh

/-! ## Every move -/

namespace Service

variable {server : CacheServer κ} {policy : FreshnessPolicy} {s t : Service κ} {m : Move} {moves : List Move} {cache : κ}

/-- every program has got to where it is by its own exchanges, and each refresh that is not over has a place -/
structure Sound (policy : FreshnessPolicy) (s : Service κ) : Prop where
  lookups : ∀ c ∈ s.lookups, (getEntry policy c.username).Leads c.past c.rest
  refreshes : ∀ r ∈ s.refreshes, r.Led policy
  running : s.world.background.running = s.refreshes.countP Refresh.inFlight
  places : s.world.background.free + s.world.background.running = policy.permits

theorem sound_start (policy : FreshnessPolicy) (cache : κ) : Sound policy (start policy cache) where
  lookups := List.forall_mem_nil _
  refreshes := List.forall_mem_nil _
  running := rfl
  places := rfl

/-- a move of a look-up at a stale hit -/
def MeetsStaleHit (policy : FreshnessPolicy) (s : Service κ) (m : Move) (k : Nat) (c : Lookup) (e : Entry) : Prop :=
  (∃ o, m = .call k o) ∧ s.lookups[k]? = some c ∧ c.AtStaleHit policy e

/-- a look-up that goes on is at a stale hit, or it leaves the places alone -/
theorem call_cases {k : Nat} {o : Outside} (hs : Sound policy s) (h : s.step? server policy (.call k o) = some t) :
    (∃ c e, MeetsStaleHit policy s (.call k o) k c e ∧ t.world.background = s.world.background.start.2 ∧
      t.lookups[k]? = some (c.answered e s.world.background.start.1) ∧
      t.refreshes = s.refreshes ++ started policy ⟨.startRefresh c.username, s.world.background.start.1⟩) ∨
    ((∀ k' c e, ¬MeetsStaleHit policy s (.call k o) k' c e) ∧ t.world.background = s.world.background ∧
      t.refreshes = s.refreshes) := by
  obtain ⟨username, past, r, next, hk, rfl⟩ := step?_call h
  rcases getEntry_leads (hs.lookups _ (List.mem_of_getElem? hk)) with hquiet | ⟨e, now, hstale, hpast, hrest⟩
  · refine Or.inr ⟨?_, answer_quiet hquiet, by rw [started_quiet hquiet, List.append_nil]⟩
    rintro k' c e ⟨⟨o', ⟨⟩⟩, hk', now, -, -, hrest⟩
    cases hk.symm.trans hk'
    dsimp only [afterStaleHit] at hrest
    cases hrest
    exact hquiet
  · refine Or.inl ⟨_, e, ⟨⟨o, rfl⟩, hk, now, hstale, hpast, hrest⟩, ?_⟩
    dsimp only [afterStaleHit] at hrest
    cases hrest
    exact ⟨rfl, List.getElem?_set_self (List.getElem?_eq_some_iff.1 hk).1, rfl⟩

theorem sound_enter {username : String} (hs : Sound policy s) (h : s.step? server policy (.enter username) = some t) :
    Sound policy t := by
  cases h
  refine ⟨?_, hs.refreshes, hs.running, hs.places⟩
  intro c hc
  rcases List.mem_append.1 hc with hc | hc
  · exact hs.lookups c hc
  · rw [List.mem_singleton.1 hc]
    exact .rest _

theorem sound_call {k : Nat} {o : Outside} (hs : Sound policy s) (h : s.step? server policy (.call k o) = some t) :
    Sound policy t := by
  have hlookups : ∀ c ∈ t.lookups, (getEntry policy c.username).Leads c.past c.rest := by
    obtain ⟨username, past, r, next, hk, rfl⟩ := step?_call h
    intro c hc
    rcases List.mem_or_eq_of_mem_set hc with hc | rfl
    · exact hs.lookups c hc
    · exact (hs.lookups _ (List.mem_of_getElem? hk)).snoc _
  rcases call_cases hs h with ⟨c, e, -, hworld, -, hrefreshes⟩ | ⟨-, hworld, hrefreshes⟩
  · obtain ⟨hplaces, hrunning⟩ := start_places s.world.background
    rw [started_startRefresh] at hrefreshes
    refine ⟨hlookups, ?_, ?_, ?_⟩
    · rw [hrefreshes]
      refine List.forall_mem_append.2 ⟨hs.refreshes, fun r hr => ?_⟩
      rw [List.mem_singleton.1 (List.mem_ite_nil_right.1 hr).2]
      exact Refresh.led_start policy c.username
    · rw [hworld, hrunning, hrefreshes, List.countP_append, ← hs.running]
      split <;> rfl
    · rw [hworld, hplaces]
      exact hs.places
  · exact ⟨hlookups, hrefreshes ▸ hs.refreshes, by rw [hworld, hrefreshes, hs.running], hworld ▸ hs.places⟩

theorem sound_refresh {j : Nat} {o : Outside} (hs : Sound policy s)
    (h : s.step? server policy (.refresh j o) = some t) : Sound policy t := by
  obtain ⟨username, past, late, r, next, hj, rfl⟩ := step?_refresh h
  obtain ⟨hlt, hget⟩ := List.getElem?_eq_some_iff.1 hj
  have hled := hs.refreshes _ (List.mem_of_getElem? hj)
  have hrefreshes : ∀ x : r.Reply, ∀ r' ∈ s.refreshes.set j ⟨username, past ++ [⟨r, x⟩], late, next x⟩,
      Refresh.Led policy r' := by
    intro x r' hr'
    rcases List.mem_or_eq_of_mem_set hr' with hr' | rfl
    · exact hs.refreshes r' hr'
    · exact hled.snoc x
  have hcount : ∀ x : r.Reply, (s.refreshes.set j ⟨username, past ++ [⟨r, x⟩], late, next x⟩).countP Refresh.inFlight =
      s.refreshes.countP Refresh.inFlight - 1 +
        if Refresh.inFlight ⟨username, past ++ [⟨r, x⟩], late, next x⟩ then 1 else 0 := by
    intro x
    rw [List.countP_set hlt, hget]
    rfl
  have hpos : 0 < s.refreshes.countP Refresh.inFlight :=
    List.countP_pos_iff.2 ⟨_, List.mem_of_getElem? hj, rfl⟩
  have hrunning := hs.running
  have hplaces := hs.places
  rcases hled.givesBack with ⟨hback, -⟩ | ⟨hdone, -⟩
  · cases hback with
    | last hnext =>
      -- its last request gives the place back
      refine ⟨hs.lookups, ?_, ?_, ?_⟩
      · rw [started_endRefresh, List.append_nil]
        exact hrefreshes _
      · rw [started_endRefresh, List.append_nil, hcount, hnext]
        change s.world.background.running - 1 = _ - 1 + 0
        omega
      · change s.world.background.free + 1 + (s.world.background.running - 1) = policy.permits
        omega
    | ask hquiet hnext =>
      have hflight : ∀ x, Refresh.inFlight ⟨username, past ++ [⟨r, x⟩], late, next x⟩ = true := fun x =>
        Refresh.inFlight_of_givesBack (hnext x)
      refine ⟨hs.lookups, ?_, ?_, ?_⟩
      · rw [started_quiet hquiet, List.append_nil]
        exact hrefreshes _
      · rw [started_quiet hquiet, List.append_nil, hcount, hflight, answer_quiet hquiet, if_pos rfl]
        omega
      · rw [answer_quiet hquiet]
        exact hplaces
  · cases hdone

theorem sound_timeOver {j : Nat} (hs : Sound policy s) (h : s.step? server policy (.timeOver j) = some t) :
    Sound policy t := by
  obtain ⟨username, past, r, next, hj, rfl⟩ := step?_timeOver h
  obtain ⟨hlt, hget⟩ := List.getElem?_eq_some_iff.1 hj
  have hled := hs.refreshes _ (List.mem_of_getElem? hj)
  have hpos : 0 < s.refreshes.countP Refresh.inFlight :=
    List.countP_pos_iff.2 ⟨_, List.mem_of_getElem? hj, rfl⟩
  refine ⟨hs.lookups, ?_, ?_, hs.places⟩
  · intro r' hr'
    rcases List.mem_or_eq_of_mem_set hr' with hr' | rfl
    · exact hs.refreshes r' hr'
    · cases hled with
      | inTime hleads =>
        have hlate : Refresh.Led policy ⟨username, past ++ [], true, refreshLate policy username⟩ :=
          .late hleads (.rest _)
        rwa [List.append_nil] at hlate
  · have hrunning := hs.running
    rw [List.countP_set hlt, hget]
    change s.world.background.running = s.refreshes.countP Refresh.inFlight - 1 + 1
    omega

/-- **Every move leaves a sound service sound.** -/
theorem step_sound (h : s.step? server policy m = some t) (hs : Sound policy s) : Sound policy t := by
  cases m with
  | enter username => exact sound_enter hs h
  | call k o => exact sound_call hs h
  | refresh j o => exact sound_refresh hs h
  | timeOver j => exact sound_timeOver hs h

theorem sound_of_run (hrun : (start policy cache).run? server policy moves = some s) : Sound policy s :=
  run_preserves (fun _ _ _ => step_sound) hrun (sound_start policy cache)

/-! ## What a move starts -/

/-- **A look-up at a stale hit starts one refresh just if a place is free**, and has its entry as the result; no other
move starts any. -/
theorem step_starts (hs : Sound policy s) (h : s.step? server policy m = some t) :
    (∃ k c e, MeetsStaleHit policy s m k c e ∧
      t.lookups[k]? = some (c.answered e (decide (0 < s.world.background.free))) ∧
      t.refreshes = s.refreshes ++ if 0 < s.world.background.free then [.start policy c.username] else []) ∨
    ((∀ k c e, ¬MeetsStaleHit policy s m k c e) ∧ t.refreshes.length = s.refreshes.length) := by
  cases m with
  | enter username =>
    cases h
    refine Or.inr ⟨?_, rfl⟩
    rintro k c e ⟨⟨o, ⟨⟩⟩, -⟩
  | timeOver j =>
    obtain ⟨username, past, r, next, -, rfl⟩ := step?_timeOver h
    refine Or.inr ⟨?_, List.length_set⟩
    rintro k c e ⟨⟨o, ⟨⟩⟩, -⟩
  | refresh j o =>
    obtain ⟨username, past, late, r, next, hj, rfl⟩ := step?_refresh h
    obtain ⟨es, hasks⟩ := (hs.refreshes _ (List.mem_of_getElem? hj)).asks
    have hnone : ∀ x : r.Reply, started policy ⟨r, x⟩ = [] := by
      intro x
      cases r with
      | startRefresh u => cases hasks
      | _ => rfl
    refine Or.inr ⟨?_, by rw [hnone, List.append_nil, List.length_set]⟩
    rintro k c e ⟨⟨o, ⟨⟩⟩, -⟩
  | call k o =>
    rcases call_cases hs h with ⟨c, e, hmeets, -, hlookups, hrefreshes⟩ | ⟨hnot, -, hrefreshes⟩
    · rw [start_granted] at hlookups hrefreshes
      refine Or.inl ⟨k, c, e, hmeets, hlookups, ?_⟩
      rw [hrefreshes, started_startRefresh]
      simp only [decide_eq_true_eq]
    · exact Or.inr ⟨hnot, by rw [hrefreshes]⟩

/-! ## What a refresh leaves alone -/

/-- refreshes keep their numbers, and their exchanges so far -/
def Extends (s t : Service κ) : Prop :=
  ∀ (j : Nat) r, s.refreshes[j]? = some r → ∃ r', t.refreshes[j]? = some r' ∧ r.past ⊆ r'.past

theorem Extends.trans {u : Service κ} (h : Extends s t) (h' : Extends t u) : Extends s u := by
  intro j r hj
  obtain ⟨r', hj', hpast⟩ := h j r hj
  obtain ⟨r'', hj'', hpast'⟩ := h' j r' hj'
  exact ⟨r'', hj'', List.Subset.trans hpast hpast'⟩

theorem getElem?_set_extends {refreshes : List Refresh} {i j : Nat} {r a : Refresh} (hi : refreshes[i]? = some r)
    (r' : Refresh) (hpast : r.past ⊆ r'.past) (hj : refreshes[j]? = some a) :
    ∃ b, (refreshes.set i r')[j]? = some b ∧ a.past ⊆ b.past := by
  by_cases hij : i = j
  · subst hij
    cases hi.symm.trans hj
    exact ⟨r', List.getElem?_set_self (List.getElem?_eq_some_iff.1 hi).1, hpast⟩
  · exact ⟨a, (List.getElem?_set_ne hij).trans hj, List.Subset.refl _⟩

theorem step_extends (h : s.step? server policy m = some t) : Extends s t := by
  intro j a hj
  cases m with
  | enter username =>
    cases h
    exact ⟨a, hj, List.Subset.refl _⟩
  | call k o =>
    obtain ⟨username, past, r, next, -, rfl⟩ := step?_call h
    exact ⟨a, (List.getElem?_append_left (List.getElem?_eq_some_iff.1 hj).1).trans hj, List.Subset.refl _⟩
  | refresh i o =>
    obtain ⟨username, past, late, r, next, hi, rfl⟩ := step?_refresh h
    let x := (World.answer server o r s.world).1
    have hpast : past ⊆ past ++ [⟨r, x⟩] := List.subset_append_left past _
    obtain ⟨b, hb, hmore⟩ := getElem?_set_extends hi ⟨username, past ++ [⟨r, x⟩], late, next x⟩ hpast hj
    exact ⟨b, (List.getElem?_append_left (List.getElem?_eq_some_iff.1 hb).1).trans hb, hmore⟩
  | timeOver i =>
    obtain ⟨username, past, r, next, hi, rfl⟩ := step?_timeOver h
    exact getElem?_set_extends hi _ (List.Subset.refl _) hj

theorem run_extends (hrun : s.run? server policy moves = some t) : Extends s t :=
  run_preserves (P := Extends s) (fun _ _ _ hstep h => h.trans (step_extends hstep)) hrun
    fun _ r hj => ⟨r, hj, List.Subset.refl _⟩

/-- no move of a refresh that never gets to write changes the cache -/
theorem step_untouched {u : Service κ} {j : Nat} {r : Refresh} {later : List Move} (hs : Sound policy s)
    (hm : m.IsOf j) (h : s.step? server policy m = some t) (hrun : t.run? server policy later = some u)
    (hj : u.refreshes[j]? = some r) (hr : r.WritesNothing) : t.world.cache = s.world.cache := by
  have hled : r.Led policy :=
    (run_preserves (fun _ _ _ => step_sound) hrun (step_sound h hs)).refreshes r (List.mem_of_getElem? hj)
  have hextends := run_extends hrun
  cases m with
  | enter _ => cases hm
  | call _ _ => cases hm
  | timeOver i =>
    obtain ⟨username, past, q, next, -, rfl⟩ := step?_timeOver h
    rfl
  | refresh i o =>
    cases hm
    obtain ⟨username, past, late, q, next, hi, rfl⟩ := step?_refresh h
    obtain ⟨es, hasks⟩ := (hs.refreshes _ (List.mem_of_getElem? hi)).asks
    -- the exchange of this move is still among those of the refresh at the end
    have hlast : ⟨q, (World.answer server o q s.world).1⟩ ∈ r.past := by
      have hlt := (List.getElem?_eq_some_iff.1 hi).1
      obtain ⟨r', hr', hpast⟩ := hextends j _
        ((List.getElem?_append_left (by rwa [List.length_set])).trans (List.getElem?_set_self hlt))
      cases hj.symm.trans hr'
      exact hpast (List.mem_append_right _ (List.mem_singleton_self _))
    refine answer_cache hasks fun u e ttl hq => ?_
    subst hq
    exact hled.not_written hr hlast

/-! ## After any run -/

/-- what can be told of the service after a run, and of what its next move will do -/
structure Orderly (server : CacheServer κ) (policy : FreshnessPolicy) (cache : κ) (moves : List Move) (s : Service κ) :
    Prop where
  /-- the free places and the refreshes that are not over are as many as the policy allows, and at least one -/
  places : s.world.background.free + s.refreshes.countP Refresh.inFlight = max policy.refreshLimit 1
  /-- a move of a look-up at a stale hit starts one refresh just if a place is free; no other move starts any -/
  starts : ∀ m t, s.step? server policy m = some t →
    (∃ k c e, MeetsStaleHit policy s m k c e ∧
      t.lookups[k]? = some (c.answered e (decide (0 < s.world.background.free))) ∧
      t.refreshes = s.refreshes ++ if 0 < s.world.background.free then [.start policy c.username] else []) ∨
    ((∀ k c e, ¬MeetsStaleHit policy s m k c e) ∧ t.refreshes.length = s.refreshes.length)
  /-- a stale entry was returned as it was found, and no other look-up has asked for a refresh -/
  answers : ∀ c ∈ s.lookups, ∀ result, c.rest = .done result → Answer policy c.username c.past result
  /-- a refresh that is not over can go on, and not for long; it is over just if it has given its place back -/
  ends : ∀ (j : Nat) r, s.refreshes[j]? = some r →
    (r.inFlight = false ↔ ⟨.endRefresh, ()⟩ ∈ r.past) ∧ r.past.length ≤ 10 ∧
      (r.inFlight = true → ∀ o, (s.step? server policy (.refresh j o)).isSome)
  /-- no move of a refresh that never got to write has changed the cache -/
  untouched : ∀ before m after a b (j : Nat) r, moves = before ++ m :: after →
    (start policy cache).run? server policy before = some a → a.step? server policy m = some b → m.IsOf j →
    s.refreshes[j]? = some r → r.WritesNothing → b.world.cache = a.world.cache

/-- **Refreshes in the background are bounded, and lose no place.** -/
theorem refreshes_bounded (hrun : (start policy cache).run? server policy moves = some s) :
    Orderly server policy cache moves s where
  places := by
    have hs := sound_of_run hrun
    rw [← hs.running]
    exact hs.places
  starts m t h := step_starts (sound_of_run hrun) h
  answers c hc result hdone := by
    have hleads := (sound_of_run hrun).lookups c hc
    rw [hdone] at hleads
    exact getEntry_runs (Program.leads_done_iff_runs.1 hleads)
  ends j r hj := by
    have hled := (sound_of_run hrun).refreshes r (List.mem_of_getElem? hj)
    refine ⟨hled.over_iff, hled.length_past, fun hflight o => ?_⟩
    obtain ⟨username, past, late, rest⟩ := r
    cases rest with
    | done a => cases hflight
    | ask q next => rw [step?, hj]; rfl
  untouched before m after a b j r hsplit hbefore hstep hm hj hr := by
    subst hsplit
    obtain ⟨a', ha', hrest⟩ := run?_append.1 hrun
    cases hbefore.symm.trans ha'
    obtain ⟨b', hb', hafter⟩ := run?_cons.1 hrest
    cases hstep.symm.trans hb'
    exact step_untouched (sound_of_run hbefore) hm hstep hafter hj hr

/-! ## A place for one -/

/-- the cache in the process -/
def inProcess : CacheServer Cache.Memory where
  get clock u m := (.ok (m.get clock u).1, (m.get clock u).2)
  set clock u e ttl m := (.ok (), m.set clock u e ttl)
  delete _ u m := (.ok (), m.delete u)

/-- no refreshes allowed, so one is; entries are stale at once -/
def strict : FreshnessPolicy := ⟨0, .ofSeconds 60, .ofSeconds 1, 0⟩

/-- two entries from the beginning of time -/
def twoEntries : Cache.Memory :=
  (Cache.Memory.empty.set 0 "ann" ⟨.start 1, .epoch⟩ 10).set 0 "bob" ⟨.start 2, .epoch⟩ 10

/-- an account with one repository -/
def oneRepository : Snapshot := .ofRepositories "ann" [⟨1, "ann", none, none, some "Rust", 5, false, 2⟩] .epoch

/-- a nanosecond later, when the store and GitHub are well -/
def soonAfter : Outside := ⟨.next .epoch, 1, .ok oneRepository, .ok (), .ok oneRepository, .ok ()⟩

/-- two look-ups at stale hits, of which the second finds no place; the refresh of the first is late before it writes -/
def lateBeforeWrite : List Move :=
  [.enter "ann", .enter "bob"] ++ List.replicate 4 (.call 0 soonAfter) ++ List.replicate 5 (.call 1 soonAfter) ++
    [.refresh 0 soonAfter, .refresh 0 soonAfter, .timeOver 0, .refresh 0 soonAfter, .refresh 0 soonAfter]

theorem refreshes_bounded_late : ∃ s, (start strict twoEntries).run? inProcess strict lateBeforeWrite = some s ∧
    s.world = ⟨⟨1, 0⟩, twoEntries⟩ ∧ s.refreshes.map (fun r => (r.username, r.late)) = [("ann", true)] ∧
    Orderly inProcess strict twoEntries lateBeforeWrite s := by
  have hrun : ((start strict twoEntries).run? inProcess strict lateBeforeWrite).map (fun s =>
      (s.world.background, s.world.cache, s.refreshes.map fun r => (r.username, r.late))) =
      some (⟨1, 0⟩, twoEntries, [("ann", true)]) := by
    decide +kernel
  obtain ⟨s, hs, hend⟩ := Option.map_eq_some_iff.1 hrun
  obtain ⟨hbackground, hend⟩ := Prod.mk.inj hend
  obtain ⟨hcache, hrefreshes⟩ := Prod.mk.inj hend
  have hworld : s.world = ⟨⟨1, 0⟩, twoEntries⟩ := by rw [← hbackground, ← hcache]
  exact ⟨s, hs, hworld, hrefreshes, refreshes_bounded hs⟩

end Service

end AccountStats.Sync
