import Mathlib.Tactic
import AccountStats.Sync.Lookup
import AccountStats.Proofs.Program.Interleaving
import AccountStats.Proofs.Program.Running
/-
What a look-up and a refresh ask for, wherever they have got to.

Two requests are about places for refreshes: to start one, which takes a place, and to give the place back. Results:
- `getEntry_leads`: a look-up asks for a refresh only behind a stale entry, which is then its result;
- `getEntry_runs`: how a look-up ends;
- `refresh_asks`: a refresh fetches first, and writes to the cache only if that has succeeded;
- `refresh_givesBack`, `refreshLate_givesBack`: the last request of a refresh gives its place back, in time or not.
-/
namespace AccountStats.Sync

open Program (Asks Exchange Leads Runs Within asks_ask asks_done leads_ask leads_done runs_ask runs_done within_ask
  within_done)

variable {policy : FreshnessPolicy} {username : String} {es : List (Exchange Calls)} {α : Type}

/-- a request that is not about places for refreshes -/
def Ask.Quiet : Ask → Prop
  | .startRefresh _ | .endRefresh => False
  | _ => True

/-- a program that neither starts a refresh nor ends one -/
abbrev Quiet (p : Program Calls α) : Prop := p.Asks fun _ => Ask.Quiet

theorem quiet_done (a : α) : Quiet (.done a : Program Calls α) := asks_done a

theorem quiet_ask {r : Ask} (hr : r.Quiet) {next : r.Reply → Program Calls α} (h : ∀ x, Quiet (next x)) :
    Quiet (Program.ask (I := Calls) r next) := asks_ask hr h

theorem Quiet.bind {β : Type} {p : Program Calls α} {f : α → Program Calls β} (hp : Quiet p) (hf : ∀ a, Quiet (f a)) :
    Quiet (p >>= f) := Asks.bind_always hp hf

theorem quiet_request {r : Ask} (hr : r.Quiet) : Quiet (ask r) := quiet_ask hr quiet_done

/-! ## Parts of a look-up and of a refresh -/

section Parts

variable {allowed : Ask → Prop}

theorem request_asks {r : Ask} (hr : allowed r) : (ask r).Asks fun _ => allowed := asks_ask hr asks_done

theorem storeInCache_asks {e : Entry} {ttl : Duration} (hset : allowed (.cacheSet username e ttl))
    (hnote : ∀ n, allowed (.note n)) : (storeInCache username e ttl).Asks fun _ => allowed := by
  refine asks_ask hset fun x => ?_
  cases x with
  | ok _ => exact asks_done ()
  | error err => exact request_asks (hnote _)

theorem noteSave_asks (result : Except Failure Unit) (hnote : ∀ n, allowed (.note n)) :
    (noteSave username result).Asks fun _ => allowed := by
  cases result with
  | ok _ => exact asks_done ()
  | error f =>
    rw [noteSave]
    split <;> exact request_asks (hnote _)

/-- a synchronization after its fetch has succeeded -/
def afterFetch (username : String) (ttl : Duration) (snapshot : Snapshot) : Program Calls (Except Failure Entry) := do
  noteSave username (← ask (.save snapshot))
  let e : Entry := ⟨Stats.ofRepositories snapshot.repositories, ← ask .now⟩
  storeInCache username e ttl
  return .ok e

/-- it saves the snapshot and writes to the cache, and asks for nothing else but the time -/
theorem afterFetch_asks {ttl : Duration} {snapshot : Snapshot} (hsave : allowed (.save snapshot)) (hnow : allowed .now)
    (hset : ∀ e, allowed (.cacheSet username e ttl)) (hnote : ∀ n, allowed (.note n)) :
    (afterFetch username ttl snapshot).Asks fun _ => allowed := by
  refine Asks.bind_always (request_asks hsave) fun saved => ?_
  refine Asks.bind_always (noteSave_asks saved hnote) fun _ => ?_
  refine Asks.bind_always (request_asks hnow) fun now => ?_
  exact Asks.bind_always (storeInCache_asks (hset _) hnote) fun _ => asks_done _

end Parts

theorem quiet_pipeline (username : String) (ttl : Duration) : Quiet (pipeline username ttl) := by
  refine quiet_ask (by trivial) fun x => ?_
  cases x with
  | error f => exact quiet_done _
  | ok snapshot => exact afterFetch_asks trivial trivial (fun _ => trivial) fun _ => trivial

theorem quiet_syncNow : Quiet (syncNow policy username) := by
  refine (quiet_pipeline username policy.hard).bind fun result => ?_
  cases result with
  | error f => exact quiet_done _
  | ok e => exact (quiet_request (by trivial)).bind fun _ => quiet_done _

theorem quiet_noteReadFailure (f : Failure) : Quiet (noteReadFailure username f) := by
  rw [noteReadFailure]
  split <;> exact quiet_request (by trivial)

theorem quiet_lookupBehindCache : Quiet (lookupBehindCache policy username) := by
  refine (quiet_request (by trivial)).bind fun _ => ?_
  refine quiet_ask (by trivial) fun x => ?_
  cases x with
  | ok snapshot =>
    refine (quiet_request (by trivial)).bind fun now => ?_
    exact Quiet.bind (storeInCache_asks trivial fun _ => trivial) fun _ => quiet_done _
  | error f => exact (quiet_noteReadFailure f).bind fun _ => quiet_syncNow

/-! ## Looking up -/

/-- the exchanges of a look-up that has found a stale entry, before it asks for a refresh -/
def staleHit (username : String) (e : Entry) (now : Time.Instant) : List (Exchange Calls) :=
  [⟨.cacheGet username, .ok (some e)⟩, ⟨.now, now⟩, ⟨.note (.count (lookupCounter "stale") 1), ()⟩]

/-- a refresh for which there is no place is noted -/
def noteSkip (username : String) (granted : Bool) : Program Calls Unit :=
  if granted then return ()
  else note (.debug "Background refresh skipped: limit reached" [("username", username)])

theorem quiet_noteSkip (granted : Bool) : Quiet (noteSkip username granted) := by
  cases granted with
  | true => exact quiet_done ()
  | false => exact quiet_request (by trivial)

theorem runs_note {n : Note} : Runs (note n) es () ↔ es = [⟨.note n, ()⟩] := by
  constructor
  · intro h
    obtain ⟨⟨⟩, rest, rfl, hrest⟩ := runs_ask.1 h
    obtain ⟨rfl, -⟩ := runs_done.1 hrest
    rfl
  · rintro rfl
    exact .ask (.done _)

/-- what is noted of a refresh that was asked for -/
def skipNotes (username : String) : Bool → List (Exchange Calls)
  | true => []
  | false => [⟨.note (.debug "Background refresh skipped: limit reached" [("username", username)]), ()⟩]

theorem runs_noteSkip {granted : Bool} : Runs (noteSkip username granted) es () ↔ es = skipNotes username granted := by
  cases granted with
  | true => exact runs_done.trans (and_iff_left rfl)
  | false => exact runs_note

/-- what is left then: the entry is the result, whatever becomes of the refresh -/
def afterStaleHit (username : String) (e : Entry) : Program Calls (Except Failure Entry) :=
  Program.ask (I := Calls) (.startRefresh username) fun granted => noteSkip username granted >>= fun _ => .done (.ok e)

theorem runs_afterStaleHit {e : Entry} {result : Except Failure Entry} :
    Runs (afterStaleHit username e) es result ↔
      ∃ granted, es = ⟨.startRefresh username, granted⟩ :: skipNotes username granted ∧ result = .ok e := by
  constructor
  · intro h
    obtain ⟨granted, rest, rfl, hrest⟩ := runs_ask.1 h
    obtain ⟨notes, rest, ⟨⟩, rfl, hnotes, hdone⟩ := Runs.split (p := noteSkip username granted) hrest
    obtain ⟨rfl, rfl⟩ := runs_done.1 hdone
    rw [runs_noteSkip.1 hnotes, List.append_nil]
    exact ⟨granted, rfl, rfl⟩
  · rintro ⟨granted, rfl, rfl⟩
    cases granted with
    | true => exact .ask (.done _)
    | false => exact .ask (.ask (.done _))

/-- a look-up from the age of what was found on -/
def byAge (policy : FreshnessPolicy) (username : String) (e : Entry) (age : Freshness) :
    Program Calls (Except Failure Entry) :=
  match age with
  | .fresh => do
    noteLookup "fresh"
    return .ok e
  | .stale => do
    noteLookup "stale"
    refreshBehind username
    return .ok e
  | .expired => do
    note (.debug "Cached stats past hard TTL" [("username", username)])
    lookupBehindCache policy username

/-- a look-up from the reply of the cache on -/
def byReply (policy : FreshnessPolicy) (username : String) (x : Except Cache.CacheError (Option Entry)) :
    Program Calls (Except Failure Entry) :=
  match x with
  | .ok (some e) => Program.ask (I := Calls) .now fun now => byAge policy username e (policy.classify e.updatedAt now)
  | .ok none => lookupBehindCache policy username
  | .error err => do
    note (.warn "Stats cache read failed" [("username", username), ("error", err.text)])
    lookupBehindCache policy username

theorem getEntry_eq (policy : FreshnessPolicy) (username : String) :
    getEntry policy username = Program.ask (I := Calls) (.cacheGet username) (byReply policy username) := by
  refine congrArg (@Program.ask Calls _ (.cacheGet username)) (funext fun x => ?_)
  cases x with
  | error err => rfl
  | ok entry? =>
    cases entry? with
    | none => rfl
    | some e => rfl

theorem quiet_byAge {e : Entry} {age : Freshness} (h : age ≠ .stale) : Quiet (byAge policy username e age) := by
  cases age with
  | fresh => exact (quiet_request (by trivial)).bind fun _ => quiet_done _
  | stale => exact absurd rfl h
  | expired => exact (quiet_request (by trivial)).bind fun _ => quiet_lookupBehindCache

theorem quiet_byReply {x : Except Cache.CacheError (Option Entry)} (h : ∀ e, x ≠ .ok (some e)) :
    Quiet (byReply policy username x) := by
  cases x with
  | error err => exact quiet_ask (by trivial) fun _ => quiet_lookupBehindCache
  | ok entry? =>
    cases entry? with
    | none => exact quiet_lookupBehindCache
    | some e => exact absurd rfl (h e)

/-- **A look-up asks for a refresh only behind a stale entry**, and gives no place back. -/
theorem getEntry_leads {r : Ask} {next : r.Reply → Program Calls (Except Failure Entry)}
    (h : (getEntry policy username).Leads es (Program.ask (I := Calls) r next)) :
    r.Quiet ∨ ∃ e now, policy.classify e.updatedAt now = .stale ∧ es = staleHit username e now ∧
      Program.ask (I := Calls) r next = afterStaleHit username e := by
  rw [getEntry_eq] at h
  rcases leads_ask.1 h with ⟨-, hq⟩ | ⟨x, es₁, rfl, hreply⟩
  · cases hq
    exact Or.inl trivial
  by_cases hx : ∀ e, x ≠ .ok (some e)
  · exact Or.inl (quiet_byReply hx es₁ r next hreply)
  · obtain ⟨e, rfl⟩ := not_forall_not.1 hx
    rcases leads_ask.1 hreply with ⟨-, hq⟩ | ⟨now, es₂, rfl, hage⟩
    · cases hq
      exact Or.inl trivial
    by_cases hstale : policy.classify e.updatedAt now = .stale
    · rw [hstale] at hage
      rcases leads_ask.1 hage with ⟨-, hq⟩ | ⟨_, es₃, rfl, hstart⟩
      · cases hq
        exact Or.inl trivial
      rcases leads_ask.1 hstart with ⟨rfl, hq⟩ | ⟨granted, es₄, rfl, hdone⟩
      · exact Or.inr ⟨e, now, hstale, rfl, hq⟩
      · have hskip : Quiet (noteSkip username granted >>= fun _ => (.done (.ok e) : Program Calls (Except Failure Entry))) :=
          (quiet_noteSkip granted).bind fun _ => quiet_done _
        exact Or.inl (hskip es₄ r next hdone)
    · exact Or.inl (quiet_byAge hstale es₂ r next hage)

theorem Quiet.of_runs {p : Program Calls α} {a : α} (hp : Quiet p) (h : Runs p es a) : ∀ e ∈ es, e.request.Quiet := by
  intro e he
  obtain ⟨before, after, rfl⟩ := List.append_of_mem he
  exact hp.of_leads (Program.leads_done_iff_runs.2 h)

/-- how a look-up ends: with the stale entry that it found, after it has asked for a refresh; or without a stale entry
and without asking for any -/
inductive Answer (policy : FreshnessPolicy) (username : String) :
    List (Exchange Calls) → Except Failure Entry → Prop where
  | stale {e : Entry} {now : Time.Instant} (granted : Bool) : policy.classify e.updatedAt now = .stale →
      Answer policy username (staleHit username e now ++ ⟨.startRefresh username, granted⟩ :: skipNotes username granted)
        (.ok e)
  | other {es : List (Exchange Calls)} {result : Except Failure Entry} :
      (∀ e now rest, es = ⟨.cacheGet username, .ok (some e)⟩ :: ⟨.now, now⟩ :: rest →
        policy.classify e.updatedAt now ≠ .stale) →
      (∀ e ∈ es, e.request.Quiet) → Answer policy username es result

/-- **A stale entry is returned as it was found**, whether a refresh was started or not. -/
theorem getEntry_runs {result : Except Failure Entry} (h : Runs (getEntry policy username) es result) :
    Answer policy username es result := by
  rw [getEntry_eq] at h
  obtain ⟨x, es₁, rfl, hreply⟩ := runs_ask.1 h
  by_cases hx : ∀ e, x ≠ .ok (some e)
  · refine .other ?_ (List.forall_mem_cons.2 ⟨trivial, (quiet_byReply hx).of_runs hreply⟩)
    rintro e now rest ⟨⟩
    exact absurd rfl (hx e)
  · obtain ⟨e, rfl⟩ := not_forall_not.1 hx
    obtain ⟨now, es₂, rfl, hage⟩ := runs_ask.1 hreply
    by_cases hstale : policy.classify e.updatedAt now = .stale
    · rw [hstale] at hage
      obtain ⟨_, es₃, rfl, hstart⟩ := runs_ask.1 hage
      obtain ⟨granted, rfl, rfl⟩ := runs_afterStaleHit.1 hstart
      exact .stale granted hstale
    · have hquiet := (quiet_byAge hstale).of_runs hage
      refine .other ?_ (List.forall_mem_cons.2 ⟨trivial, List.forall_mem_cons.2 ⟨trivial, hquiet⟩⟩)
      rintro e now rest ⟨⟩
      exact hstale

/-! ## Refreshing -/

/-- what a refresh may ask for after these exchanges: it fetches first, and writes to the cache only if that has
succeeded -/
def RefreshAsks (username : String) (es : List (Exchange Calls)) : Ask → Prop
  | .fetch u => u = username ∧ es = []
  | .cacheSet u _ _ => u = username ∧ ∃ snapshot, es.head? = some ⟨.fetch username, .ok snapshot⟩
  | .save _ | .now | .note _ | .endRefresh => True
  | .cacheGet _ | .cacheDelete _ | .readStored _ | .startRefresh _ | .publish _ => False

theorem pipeline_asks (username : String) (ttl : Duration) : (pipeline username ttl).Asks (RefreshAsks username) := by
  refine asks_ask ⟨rfl, rfl⟩ fun x => ?_
  cases x with
  | error f => exact asks_done _
  | ok snapshot =>
    have hrest : (afterFetch username ttl snapshot).Asks fun _ r =>
        ∀ es, RefreshAsks username (⟨.fetch username, .ok snapshot⟩ :: es) r :=
      afterFetch_asks (fun _ => trivial) (fun _ => trivial) (fun _ _ => ⟨rfl, snapshot, rfl⟩) fun _ _ => trivial
    exact hrest.imp fun es r h => h es

/-- what is asked for at the end of a refresh, in time or not -/
def Ask.Ending : Ask → Prop
  | .note _ | .endRefresh => True
  | _ => False

theorem Ask.Ending.refreshAsks {r : Ask} (h : r.Ending) (es : List (Exchange Calls)) : RefreshAsks username es r := by
  cases r with
  | note n => trivial
  | endRefresh => trivial
  | _ => cases h

theorem refreshLate_asks (policy : FreshnessPolicy) (username : String) :
    (refreshLate policy username).Asks fun _ => Ask.Ending :=
  Asks.bind_always (request_asks (by trivial)) fun _ => request_asks (by trivial)

theorem refresh_asks (policy : FreshnessPolicy) (username : String) :
    (refresh policy username).Asks (RefreshAsks username) := by
  refine Asks.bind (pipeline_asks username policy.hard) fun es result _ => ?_
  have hend : (ask .endRefresh).Asks fun _ => Ask.Ending := request_asks (by trivial)
  have hnoted : ∀ n, (note n >>= fun _ => ask .endRefresh).Asks fun _ => Ask.Ending := fun n =>
    Asks.bind_always (request_asks (by trivial)) fun _ => hend
  cases result <;> exact (hnoted _).imp fun es' r h => h.refreshAsks (es ++ es')

/-- the last request gives the place back, and no other is about places -/
inductive GivesBack : Program Calls Unit → Prop where
  | last {next : Unit → Program Calls Unit} : (∀ x, next x = .done ()) →
      GivesBack (Program.ask (I := Calls) .endRefresh next)
  | ask {r : Ask} {next : r.Reply → Program Calls Unit} : r.Quiet → (∀ x, GivesBack (next x)) →
      GivesBack (Program.ask (I := Calls) r next)

theorem GivesBack.bind {p : Program Calls α} {f : α → Program Calls Unit} (hp : Quiet p) (hf : ∀ a, GivesBack (f a)) :
    GivesBack (p >>= f) := by
  induction p with
  | done a => exact hf a
  | ask r next ih => exact .ask (hp [] r next (.rest _)) fun x => ih x fun es r' next' h => hp _ r' next' (.ask h)

theorem givesBack_endRefresh : GivesBack (ask .endRefresh) := .last fun _ => rfl

theorem refresh_givesBack (policy : FreshnessPolicy) (username : String) : GivesBack (refresh policy username) := by
  refine .bind (quiet_pipeline username policy.hard) fun result => ?_
  cases result <;> exact .bind (quiet_request (by trivial)) fun _ => givesBack_endRefresh

theorem refreshLate_givesBack (policy : FreshnessPolicy) (username : String) :
    GivesBack (refreshLate policy username) :=
  .bind (quiet_request (by trivial)) fun _ => givesBack_endRefresh

/-- on its way a program has not given its place back, and at its end it has -/
theorem GivesBack.of_leads {p q : Program Calls Unit} (hp : GivesBack p) (h : p.Leads es q) :
    (GivesBack q ∧ ∀ e ∈ es, e.request.Quiet) ∨ (q = .done () ∧ ⟨.endRefresh, ()⟩ ∈ es) := by
  induction hp generalizing es with
  | last hnext =>
    rcases leads_ask.1 h with ⟨rfl, rfl⟩ | ⟨x, es', rfl, hrest⟩
    · exact Or.inl ⟨.last hnext, List.forall_mem_nil _⟩
    · rw [hnext] at hrest
      exact Or.inr ⟨(leads_done.1 hrest).2, List.mem_cons_self⟩
  | ask hr hnext ih =>
    rcases leads_ask.1 h with ⟨rfl, rfl⟩ | ⟨x, es', rfl, hrest⟩
    · exact Or.inl ⟨.ask hr hnext, List.forall_mem_nil _⟩
    · rcases ih x hrest with ⟨hq, hquiet⟩ | ⟨hq, hback⟩
      · exact Or.inl ⟨hq, List.forall_mem_cons.2 ⟨hr, hquiet⟩⟩
      · exact Or.inr ⟨hq, List.mem_cons_of_mem _ hback⟩

/-! ## How long it takes -/

theorem within_request (r : Ask) : Within 1 (ask r) := within_ask fun x => within_done x 0

theorem within_storeInCache (e : Entry) (ttl : Duration) : Within 2 (storeInCache username e ttl) := by
  refine within_ask fun x => ?_
  cases x with
  | ok _ => exact within_done () 1
  | error err => exact within_request _

theorem within_noteSave (result : Except Failure Unit) : Within 1 (noteSave username result) := by
  cases result with
  | ok _ => exact within_done () 1
  | error f =>
    rw [noteSave]
    split <;> exact within_request _

theorem within_pipeline (username : String) (ttl : Duration) : Within 6 (pipeline username ttl) := by
  refine within_ask fun x => ?_
  cases x with
  | error f => exact within_done _ 5
  | ok snapshot =>
    refine (within_request (.save snapshot)).bind fun saved => (?_ : Within 4 _)
    refine (within_noteSave saved).bind fun _ => (?_ : Within 3 _)
    refine (within_request .now).bind fun now => (?_ : Within 2 _)
    exact (within_storeInCache _ ttl).bind fun _ => within_done _ 0

theorem refresh_within (policy : FreshnessPolicy) (username : String) : Within 8 (refresh policy username) := by
  refine (within_pipeline username policy.hard).bind fun result => (?_ : Within 2 _)
  cases result <;> exact (within_request _).bind fun _ => within_request .endRefresh

theorem refreshLate_within (policy : FreshnessPolicy) (username : String) : Within 2 (refreshLate policy username) :=
  (within_request _).bind fun _ => within_request .endRefresh

end AccountStats.Sync
