import Mathlib.Tactic
import AccountStats.Web.Banners
import AccountStats.Proofs.Banner.Wire
import AccountStats.Proofs.Program.Interleaving
import AccountStats.Proofs.Program.Running
import AccountStats.Proofs.Sync.Serving
import AccountStats.Proofs.Sync.Tiers
/-
What a request for a banner publishes, and what it is answered.

A request is told by its exchanges, and the replies in them may be any: of the cache, the store, GitHub, the clock, the
places for refreshes and the publisher. Other requests and the refreshes behind them may come in between. Results:
- `checkOrder_cases`: what is checked before anything is asked for;
- `handling_of_runs`: the three ways a request goes: refused, not found, or one attempt to deliver an event;
- `published_of_runs`: the attempt and the response, told by what the look-up came to;
- `published_once`: the same of a request over HTTP, in any surroundings and among any other programs.
-/
namespace AccountStats.Web

open Program (Answered Exchange Replied Runs answered_cons exists_runs leads_done_iff_runs result? result?_eq_some
  runs_ask runs_done runs_map runs_through)
open Sync (Tier callsOf getEntry getEntry_iff_served)

variable {policy : FreshnessPolicy} {username : String} {es : List (Exchange Calls)} {response : Response}
  {r : Banner.Request}

/-! ## The statistics service behind the handlers -/

/-- an exchange of the statistics service -/
def behind (e : Exchange Sync.Calls) : Exchange Calls := ⟨.sync e.request, e.reply⟩

/-- each request is passed on, and its reply is taken -/
theorem answered_sync {inner : List (Exchange Sync.Calls)} :
    Answered (fun r : Sync.Ask => (Program.ask (Ask.sync r) .done : Program Calls r.Reply)) inner es ↔
      es = inner.map behind := by
  induction inner generalizing es with
  | nil =>
    constructor
    · rintro ⟨⟩
      rfl
    · rintro rfl
      exact .nil
  | cons e inner ih =>
    rw [answered_cons, List.map_cons]
    constructor
    · rintro ⟨first, rest, rfl, hfirst, hrest⟩
      obtain ⟨x, _, rfl, hdone⟩ := runs_ask.1 hfirst
      obtain ⟨rfl, rfl⟩ := runs_done.1 hdone
      rw [ih.1 hrest]
      rfl
    · rintro rfl
      exact ⟨[behind e], inner.map behind, rfl, .ask (.done _), ih.2 rfl⟩

/-- **A program of the statistics service has its exchanges behind a handler.** -/
theorem runs_sync {α : Type} {p : Program Sync.Calls α} {a : α} :
    Runs (sync p) es a ↔ ∃ inner, Runs p inner a ∧ es = inner.map behind :=
  runs_through.trans (exists_congr fun _ => and_congr_right fun _ => answered_sync)

/-- what is noted of a failure that is answered -/
def failureNotes (f : Failure) : List (Exchange Calls) :=
  if f.kind = .internal then
    [⟨.sync (.note (.error "Internal error" [("message", f.message), ("details", f.shownDetails.render)])), ()⟩]
  else []

theorem runs_respond {f : Failure} : Runs (respond f) es response ↔ response = .ofFailure f ∧ es = failureNotes f := by
  unfold respond failureNotes
  split
  · constructor
    · intro h
      obtain ⟨_, rest, rfl, hdone⟩ := runs_ask.1 h
      obtain ⟨rfl, rfl⟩ := runs_done.1 hdone
      exact ⟨rfl, rfl⟩
    · rintro ⟨rfl, rfl⟩
      exact .ask (.done _)
  · exact runs_done.trans and_comm

/-! ## What is checked -/

/-- a request for a banner that can be had: a login, a layout and a path, with blanks around name and path left out -/
structure Valid (r : Banner.Request) : Prop where
  login : GitHub.isLogin (Text.trimmed r.username) = true
  layout : ∃ layout : Banner.Layout, layout.name = r.layout
  storagePath : Text.trimmed r.storagePath ≠ ""

theorem ofName?_eq_some {s : String} {layout : Banner.Layout} :
    Banner.Layout.ofName? s = some layout ↔ layout.name = s := by
  cases layout
  rw [Banner.Layout.ofName?, Banner.Layout.name]
  split
  · next h => exact iff_of_true rfl h.symm
  · next h => exact iff_of_false nofun (Ne.symm h)

/-- what is ordered with a layout: name and path as they were trimmed -/
def ordered (r : Banner.Request) (layout : Banner.Layout) : BannerOrder :=
  ⟨Text.trimmed r.username, layout, Text.trimmed r.storagePath⟩

/-- **A request is valid, and ordered as it was trimmed, or it is malformed.** -/
theorem checkOrder_cases (r : Banner.Request) :
    (Valid r ∧ ∃ layout : Banner.Layout, layout.name = r.layout ∧ checkOrder r = .ok (ordered r layout)) ∨
    (¬ Valid r ∧ ∃ f, f.kind = .badRequest ∧ checkOrder r = .error f) := by
  by_cases hlogin : GitHub.isLogin (Text.trimmed r.username) = true
  · cases hname : Banner.Layout.ofName? r.layout with
    | none =>
      refine Or.inr ⟨fun h => ?_, Failure.unknownBanner _ _, rfl, by rw [checkOrder, if_pos hlogin, hname]⟩
      obtain ⟨layout, hlayout⟩ := h.layout
      rw [ofName?_eq_some.2 hlayout] at hname
      cases hname
    | some layout =>
      by_cases hpath : Text.trimmed r.storagePath = ""
      · refine Or.inr ⟨fun h => h.storagePath hpath, Failure.emptyStoragePath, rfl, ?_⟩
        rw [checkOrder, if_pos hlogin, hname]
        exact if_pos hpath
      · have hlayout := ofName?_eq_some.1 hname
        refine Or.inl ⟨⟨hlogin, ⟨layout, hlayout⟩, hpath⟩, layout, hlayout, ?_⟩
        rw [checkOrder, if_pos hlogin, hname]
        exact if_neg hpath
  · exact Or.inr ⟨fun h => hlogin h.login, Failure.invalidLogin _, rfl, by rw [checkOrder, if_neg hlogin]⟩

/-! ## Attempts -/

/-- an attempt to deliver an event, with what became of it -/
abbrev Attempt := Banner.Event × Except Banner.PublishError Unit

def attempt? : Exchange Calls → Option Attempt
  | ⟨.sync (.publish event), x⟩ => some (event, x)
  | _ => none

/-- the attempts among some exchanges, in order -/
def attemptsOf (es : List (Exchange Calls)) : List Attempt := es.filterMap attempt?

theorem attemptsOf_append (es fs : List (Exchange Calls)) : attemptsOf (es ++ fs) = attemptsOf es ++ attemptsOf fs :=
  List.filterMap_append

theorem attempt?_eq_none {e : Exchange Calls} (h : ∀ event, e.request ≠ .sync (.publish event)) :
    attempt? e = none := by
  unfold attempt?
  split
  · next event x => exact absurd rfl (h event)
  · rfl

/-- a look-up attempts nothing -/
theorem attemptsOf_looked {result : Except Failure Entry} (h : Runs (sync (getEntry policy username)) es result) :
    attemptsOf es = [] := by
  obtain ⟨looked, hlooked, rfl⟩ := runs_sync.1 h
  obtain ⟨tier, hserved, -⟩ := getEntry_iff_served.1 hlooked
  refine List.filterMap_eq_nil_iff.2 fun e he => attempt?_eq_none fun event hevent => ?_
  obtain ⟨e, hmem, rfl⟩ := List.mem_map.1 he
  have hcall : Sync.Ask.publish event ∈ callsOf looked := by
    refine List.mem_filterMap.2 ⟨e.request, List.mem_map_of_mem hmem, ?_⟩
    rw [Ask.sync.inj hevent]
    rfl
  rw [hserved.comesTo.calls] at hcall
  cases tier <;> simp [Tier.calls] at hcall

theorem attemptsOf_failureNotes (f : Failure) : attemptsOf (failureNotes f) = [] := by
  unfold failureNotes
  split <;> rfl

/-- the event for a banner that is ordered and an entry that was found -/
def BannerOrder.event (order : BannerOrder) (e : Entry) (now : Time.Instant) : Banner.Event :=
  .ofBanner ⟨order.username, order.layout, order.storagePath, e.stats, e.updatedAt⟩ now

/-- what is noted of an attempt -/
def attemptNote (order : BannerOrder) : Except Banner.PublishError Unit → Note
  | .error err => .error "Failed to publish banner event" [("username", order.username), ("error", err.text)]
  | .ok _ => .info "Banner event published" [("username", order.username), ("banner_type", order.layout.name)]

/-- the response after an attempt -/
def attemptResponse (order : BannerOrder) (event : Banner.Event) : Except Banner.PublishError Unit → Response
  | .error _ => .ofFailure (Failure.bannerNotPublished order.username)
  | .ok _ => .json 202 event.toJson

/-- the exchanges of an attempt -/
def attempted (order : BannerOrder) (e : Entry) (now : Time.Instant) (delivered : Except Banner.PublishError Unit) :
    List (Exchange Calls) :=
  [⟨.sync .now, now⟩, ⟨.sync (.publish (order.event e now)), delivered⟩,
    ⟨.sync (.note (attemptNote order delivered)), ()⟩]

/-! ## Ways to go -/

/-- the exchanges of a request for a banner, with its response -/
inductive Handling (policy : FreshnessPolicy) (r : Banner.Request) : List (Exchange Calls) → Response → Prop where
  /-- a request that is not valid asks for nothing -/
  | refused {f : Failure} : ¬ Valid r → f.kind = .badRequest → Handling policy r [] (.ofFailure f)
  /-- the look-up fails -/
  | notFound {looked : List (Exchange Calls)} {f : Failure} : Valid r →
      Runs (sync (getEntry policy (Text.trimmed r.username))) looked (.error f) →
      Handling policy r (looked ++ failureNotes f) (.ofFailure f)
  /-- the look-up is followed by one attempt -/
  | attempted {layout : Banner.Layout} {looked : List (Exchange Calls)} {e : Entry} (now : Time.Instant)
      (delivered : Except Banner.PublishError Unit) : Valid r → layout.name = r.layout →
      Runs (sync (getEntry policy (Text.trimmed r.username))) looked (.ok e) →
      Handling policy r (looked ++ attempted (ordered r layout) e now delivered)
        (attemptResponse (ordered r layout) ((ordered r layout).event e now) delivered)

/-- a publication that was answered: after the look-up has failed, or after one attempt -/
theorem runs_publish_respond {order : BannerOrder}
    (h : Runs (sync (Banner.publish policy order.username order.layout order.storagePath) >>= fun
      | .ok event => pure (Response.json 202 event.toJson)
      | .error f => respond f) es response) :
    (∃ looked f, Runs (sync (getEntry policy order.username)) looked (.error f) ∧
      es = looked ++ failureNotes f ∧ response = .ofFailure f) ∨
    ∃ looked e now delivered, Runs (sync (getEntry policy order.username)) looked (.ok e) ∧
      es = looked ++ attempted order e now delivered ∧
        response = attemptResponse order (order.event e now) delivered := by
  obtain ⟨published, answered, result, rfl, hpublish, hanswer⟩ := Runs.split (p := sync _) h
  obtain ⟨inner, hinner, rfl⟩ := runs_sync.1 hpublish
  obtain ⟨looked, rest, found, rfl, hlooked, hrest⟩ := Runs.split (p := getEntry policy order.username) hinner
  have hsync := runs_sync.2 ⟨looked, hlooked, rfl⟩
  rw [List.map_append]
  cases found with
  | error f =>
    obtain ⟨rfl, rfl⟩ := runs_done.1 hrest
    obtain ⟨rfl, rfl⟩ := runs_respond.1 hanswer
    exact Or.inl ⟨_, f, hsync, by rw [List.map_nil, List.append_nil], rfl⟩
  | ok e =>
    obtain ⟨now, rest, rfl, hproduced⟩ := runs_ask.1 hrest
    obtain ⟨delivered, rest, rfl, hdelivered⟩ := runs_ask.1 hproduced
    refine Or.inr ⟨_, e, now, delivered, hsync, ?_⟩
    cases delivered with
    | error err =>
      obtain ⟨_, rest, rfl, hdone⟩ := runs_ask.1 hdelivered
      obtain ⟨rfl, rfl⟩ := runs_done.1 hdone
      obtain ⟨rfl, rfl⟩ := runs_respond.1 hanswer
      exact ⟨List.append_assoc .., rfl⟩
    | ok _ =>
      obtain ⟨_, rest, rfl, hdone⟩ := runs_ask.1 hdelivered
      obtain ⟨rfl, rfl⟩ := runs_done.1 hdone
      obtain ⟨rfl, rfl⟩ := runs_done.1 hanswer
      exact ⟨List.append_assoc .., rfl⟩

/-- **A request for a banner goes one of three ways.** -/
theorem handling_of_runs (h : Runs (publishBanner policy r) es response) : Handling policy r es response := by
  unfold publishBanner at h
  rcases checkOrder_cases r with ⟨hvalid, layout, hlayout, horder⟩ | ⟨hinvalid, f, hkind, horder⟩
  · rw [horder] at h
    rcases runs_publish_respond h with ⟨looked, f, hlooked, rfl, rfl⟩ | ⟨looked, e, now, delivered, hlooked, rfl, rfl⟩
    · exact .notFound hvalid hlooked
    · exact .attempted now delivered hvalid hlayout hlooked
  · rw [horder] at h
    obtain ⟨rfl, rfl⟩ := runs_respond.1 h
    have hquiet : failureNotes f = [] := by rw [failureNotes, hkind]; rfl
    rw [hquiet]
    exact .refused hinvalid hkind

/-! ## What was published -/

/-- the exchanges begin with those of a look-up that came to this result -/
def LookedUp (policy : FreshnessPolicy) (username : String) (es : List (Exchange Calls))
    (result : Except Failure Entry) : Prop :=
  ∃ looked rest, es = looked ++ rest ∧ Runs (sync (getEntry policy username)) looked result

theorem LookedUp.unique {result other : Except Failure Entry} (h : LookedUp policy username es result)
    (k : LookedUp policy username es other) : result = other := by
  obtain ⟨looked, rest, rfl, hruns⟩ := h
  obtain ⟨looked', rest', hsame, hruns'⟩ := k
  exact (hruns.unique hruns' hsame).2

/-- what a request for a banner has published and was answered, given its exchanges -/
structure Published (policy : FreshnessPolicy) (r : Banner.Request) (es : List (Exchange Calls))
    (response : Response) : Prop where
  /-- a request that is not valid asks for nothing at all -/
  refused : ¬ Valid r → es = [] ∧ ∃ f, f.kind = .badRequest ∧ response = .ofFailure f
  /-- the account of a valid one is looked up, with one result -/
  looked : Valid r → ∃! result, LookedUp policy (Text.trimmed r.username) es result
  /-- an entry of the cache that is stale is that result, whether or not a refresh is started to replace it -/
  stale : ∀ (e : Entry) now rest, policy.classify e.updatedAt now = .stale →
    es = ⟨.sync (.cacheGet (Text.trimmed r.username)), .ok (some e)⟩ :: ⟨.sync .now, now⟩ :: rest →
    LookedUp policy (Text.trimmed r.username) es (.ok e)
  /-- a failure of the look-up is the answer -/
  notFound : ∀ f, Valid r → LookedUp policy (Text.trimmed r.username) es (.error f) → response = .ofFailure f
  /-- something is published just if the request is valid and the look-up succeeds -/
  attempts : attemptsOf es ≠ [] ↔ Valid r ∧ ∃ e, LookedUp policy (Text.trimmed r.username) es (.ok e)
  /-- then one event is, with the trimmed name and path and the entry that was looked up, produced when the clock was
  read just before -/
  attempt : ∀ e : Entry, Valid r → LookedUp policy (Text.trimmed r.username) es (.ok e) →
    ∃ layout before now event delivered after, layout.name = r.layout ∧
      event = ⟨"github_banner_info_ready", 1, now,
        ⟨Text.trimmed r.username, layout, Text.trimmed r.storagePath, e.stats, e.updatedAt⟩⟩ ∧
      es = before ++ ⟨.sync .now, now⟩ :: ⟨.sync (.publish event), delivered⟩ :: after ∧
      attemptsOf es = [(event, delivered)]
  /-- the request is accepted just if the event was delivered -/
  accepted : response.status = 202 ↔ ∃ event, attemptsOf es = [(event, .ok ())]
  /-- and then the answer is the event, which can be read from it -/
  answered : ∀ event, attemptsOf es = [(event, .ok ())] →
    response = .json 202 event.toJson ∧ Json.readText response.body >>= Banner.Event.ofJson? = some event
  /-- otherwise it is that the event could not be published -/
  undelivered : ∀ event err, attemptsOf es = [(event, .error err)] → response.status = 503 ∧
    response = .ofFailure ⟨.unavailable, "Banner event could not be published",
      .record [("username", .text (Text.trimmed r.username))]⟩

/-- a look-up that finds a stale entry in the cache comes to that entry -/
theorem LookedUp.of_stale {result : Except Failure Entry} {e : Entry} {now : Time.Instant}
    {rest : List (Exchange Calls)} (hclass : policy.classify e.updatedAt now = .stale)
    (h : LookedUp policy username es result)
    (hes : es = ⟨.sync (.cacheGet username), .ok (some e)⟩ :: ⟨.sync .now, now⟩ :: rest) :
    LookedUp policy username es (.ok e) := by
  suffices hresult : result = .ok e by rwa [hresult] at h
  obtain ⟨looked, after, rfl, hlooked⟩ := h
  obtain ⟨inner, hinner, rfl⟩ := runs_sync.1 hlooked
  rw [Sync.getEntry_eq] at hinner
  obtain ⟨_, inner, rfl, hfound⟩ := runs_ask.1 hinner
  cases (List.cons.inj hes).1
  obtain ⟨_, inner, rfl, haged⟩ := runs_ask.1 hfound
  cases (List.cons.inj (List.cons.inj hes).2).1
  rw [hclass] at haged
  obtain ⟨_, inner, rfl, hcounted⟩ := runs_ask.1 haged
  obtain ⟨granted, inner, rfl, hstarted⟩ := runs_ask.1 hcounted
  cases granted with
  | true => exact (runs_done.1 hstarted).2
  | false =>
    obtain ⟨_, inner, rfl, hdone⟩ := runs_ask.1 hstarted
    exact (runs_done.1 hdone).2

theorem status_ofFailure_ne (f : Failure) : (Response.ofFailure f).status ≠ 202 := by
  change f.kind.status ≠ 202
  cases f.kind <;> decide

/-- a request without an attempt is not accepted, and was not to be attempted -/
theorem published_failed {f : Failure} (hnone : attemptsOf es = [])
    (hrefused : ¬ Valid r → es = [] ∧ f.kind = .badRequest)
    (hlooked : Valid r → LookedUp policy (Text.trimmed r.username) es (.error f)) :
    Published policy r es (.ofFailure f) where
  refused hinvalid := ⟨(hrefused hinvalid).1, f, (hrefused hinvalid).2, rfl⟩
  looked hvalid := ⟨.error f, hlooked hvalid, fun _ h => h.unique (hlooked hvalid)⟩
  stale e now rest hclass hes := by
    by_cases hvalid : Valid r
    · exact (hlooked hvalid).of_stale hclass hes
    · cases (hrefused hvalid).1.symm.trans hes
  notFound f' hvalid h := by
    cases h.unique (hlooked hvalid)
    rfl
  attempts := by
    refine iff_of_false (fun h => h hnone) ?_
    rintro ⟨hvalid, e, h⟩
    cases h.unique (hlooked hvalid)
  attempt e hvalid h := by cases h.unique (hlooked hvalid)
  accepted := by
    refine iff_of_false (status_ofFailure_ne f) ?_
    rintro ⟨event, h⟩
    cases hnone.symm.trans h
  answered event h := by cases hnone.symm.trans h
  undelivered event err h := by cases hnone.symm.trans h

/-- after an attempt the request is accepted just if it succeeded -/
theorem published_attempted {layout : Banner.Layout} {e : Entry} {now : Time.Instant}
    {delivered : Except Banner.PublishError Unit} (hvalid : Valid r) (hlayout : layout.name = r.layout)
    (hlooked : LookedUp policy (Text.trimmed r.username) es (.ok e))
    (hes : ∃ looked, es = looked ++ attempted (ordered r layout) e now delivered)
    (hone : attemptsOf es = [((ordered r layout).event e now, delivered)]) :
    Published policy r es (attemptResponse (ordered r layout) ((ordered r layout).event e now) delivered) where
  refused hinvalid := absurd hvalid hinvalid
  looked _ := ⟨.ok e, hlooked, fun _ h => h.unique hlooked⟩
  stale _ _ _ hclass hes := hlooked.of_stale hclass hes
  notFound f _ h := by cases h.unique hlooked
  attempts := by
    rw [hone]
    exact iff_of_true (List.cons_ne_nil _ _) ⟨hvalid, e, hlooked⟩
  attempt e' _ h := by
    cases h.unique hlooked
    obtain ⟨looked, rfl⟩ := hes
    exact ⟨layout, looked, now, _, delivered, _, hlayout, rfl, rfl, hone⟩
  accepted := by
    rw [hone]
    cases delivered with
    | error err =>
      refine iff_of_false (status_ofFailure_ne _) ?_
      rintro ⟨event, ⟨⟩⟩
    | ok _ => exact iff_of_true rfl ⟨_, rfl⟩
  answered event h := by
    cases hone.symm.trans h
    exact ⟨rfl, Banner.Event.undoes_json.readText_render _⟩
  undelivered event err h := by
    cases hone.symm.trans h
    exact ⟨rfl, rfl⟩

/-- **What a request for a banner publishes and is answered**, whatever it is replied. -/
theorem published_of_runs (h : Runs (publishBanner policy r) es response) : Published policy r es response := by
  cases handling_of_runs h with
  | refused hinvalid hkind =>
    exact published_failed rfl (fun _ => ⟨rfl, hkind⟩) fun hvalid => absurd hvalid hinvalid
  | @notFound looked f hvalid hlooked =>
    refine published_failed ?_ (fun hinvalid => absurd hvalid hinvalid) fun _ => ⟨looked, _, rfl, hlooked⟩
    rw [attemptsOf_append, attemptsOf_looked hlooked, attemptsOf_failureNotes]
    rfl
  | @attempted layout looked e now delivered hvalid hlayout hlooked =>
    refine published_attempted hvalid hlayout ⟨looked, _, rfl, hlooked⟩ ⟨looked, rfl⟩ ?_
    rw [attemptsOf_append, attemptsOf_looked hlooked]
    rfl

theorem Published.length_attempts (h : Published policy r es response) : (attemptsOf es).length ≤ 1 := by
  by_cases hnone : attemptsOf es = []
  · rw [hnone]
    exact Nat.zero_le 1
  · obtain ⟨hvalid, e, hlooked⟩ := h.attempts.1 hnone
    obtain ⟨layout, before, now, event, delivered, after, -, -, -, hone⟩ := h.attempt e hvalid hlooked
    rw [hone]
    exact Nat.le_refl 1

/-! ## Over HTTP, among other programs -/

/-- what is answered to a request over HTTP: a body that cannot be read is refused at once -/
def Handled (policy : FreshnessPolicy) (r : Request) (es : List (Exchange Calls)) (response : Response) : Prop :=
  match bannerRequest r with
  | .error refusal => es = [] ∧ response = refusal
  | .ok request => Published policy request es response

theorem handled_of_runs {r : Request} (h : Runs (bannerHandler policy r) es response) :
    Handled policy r es response := by
  unfold bannerHandler at h
  unfold Handled
  cases hbody : bannerRequest r with
  | error refusal =>
    rw [hbody] at h
    exact runs_done.1 h
  | ok request =>
    rw [hbody] at h
    exact published_of_runs h

theorem Handled.length_attempts {r : Request} (h : Handled policy r es response) : (attemptsOf es).length ≤ 1 := by
  unfold Handled at h
  cases hbody : bannerRequest r with
  | error refusal =>
    rw [hbody] at h
    rw [h.1]
    exact Nat.zero_le 1
  | ok request =>
    rw [hbody] at h
    exact h.length_attempts

theorem nonempty_reply (r : Ask) : Nonempty r.Reply := by
  have hfailure : Failure := Failure.accountNotStored ""
  cases r with
  | sync r =>
    cases r with
    | now => exact ⟨.epoch⟩
    | cacheGet _ => exact ⟨.ok none⟩
    | cacheSet _ _ _ => exact ⟨.ok ()⟩
    | cacheDelete _ => exact ⟨.ok ()⟩
    | readStored _ => exact ⟨.error hfailure⟩
    | save _ => exact ⟨.ok ()⟩
    | fetch _ => exact ⟨.error hfailure⟩
    | startRefresh _ => exact ⟨false⟩
    | endRefresh => exact ⟨()⟩
    | publish _ => exact ⟨.ok ()⟩
    | note _ => exact ⟨()⟩
  | pingDatabase => exact ⟨.ok ()⟩
  | cacheHealthy => exact ⟨true⟩
  | credentials => exact ⟨[]⟩

/-- a request has not made more than one attempt at any moment: what it has done by then is the beginning of a run -/
theorem length_attempts_of_leads {α : Type} {r : Request} {f : Response → α} {q : Program Calls α}
    (h : (f <$> bannerHandler policy r).Leads es q) : (attemptsOf es).length ≤ 1 := by
  obtain ⟨rest, hrest, -⟩ := exists_runs (fun q _ => (Classical.choice (nonempty_reply q), ())) q ()
  obtain ⟨response, hruns, -⟩ := runs_map.1 (h.runs hrest)
  have hall := (handled_of_runs hruns).length_attempts
  rw [attemptsOf_append, List.length_append] at hall
  exact (Nat.le_add_right _ _).trans hall

open Interleaving (exchangesOf leads_of_run)

/-- **A request for a banner publishes at most once, and is answered with what it published.** Whatever is replied, the
response is as the exchanges say, and in any surroundings there is one. Among other programs, refreshes and other
requests, which go on at any moments between its own, there is at every moment one attempt at most, and the same is true
of its response and of its own exchanges. -/
theorem published_once (policy : FreshnessPolicy) (r : Request) :
    (∀ es response, Runs (bannerHandler policy r) es response → Handled policy r es response) ∧
    (∀ (σ : Type) (answer : (q : Ask) → σ → q.Reply × σ) (world : σ), ∃ es,
      Runs (bannerHandler policy r) es ((bannerHandler policy r).run answer world).1 ∧
      Replied answer world es ((bannerHandler policy r).run answer world).2) ∧
    ∀ (σ ω α : Type) (answer : ω → (q : Ask) → σ → q.Reply × σ) (world : σ) (programs : List (Program Calls α))
      (f : Response → α) (k : Nat) moments s, programs[k]? = some (f <$> bannerHandler policy r) →
      (Interleaving.start world programs).run? answer moments = some s →
      (attemptsOf (exchangesOf s.history k)).length ≤ 1 ∧
        ∀ a, s.programs[k]? = some (.done a) → ∃ response, a = f response ∧
          Handled policy r (exchangesOf s.history k) response := by
  refine ⟨fun es response => handled_of_runs, fun σ answer => exists_runs answer (bannerHandler policy r), ?_⟩
  intro σ ω α answer world programs f k moments s hk hrun
  obtain ⟨q, hq, hleads⟩ := (leads_of_run hrun).2 k _ hk
  refine ⟨length_attempts_of_leads hleads, fun a hdone => ?_⟩
  cases hq.symm.trans hdone
  obtain ⟨response, hruns, ha⟩ := runs_map.1 (leads_done_iff_runs.1 hleads)
  exact ⟨response, ha, handled_of_runs hruns⟩

/-- a request for a banner for "ann", with blanks around the name and the path -/
def bannerForAnn : Request :=
  ⟨"POST", "/api/banners", [("content-type", "application/json".toUTF8)],
    "\x7b\"username\":\" ann \",\"banner_type\":\"wide\",\"storage_path\":\"ann.svg\\n\"\x7d".toUTF8⟩

/-- an entry from the beginning of time -/
def oldEntry : Cache.Memory := Cache.Memory.empty.set 0 "ann" ⟨.start 1, .epoch⟩ 100

open Sync.Service (hourly moment oneRepository)

/-- ten minutes later, when the store, GitHub and the publisher are well -/
def later : Sync.Outside := ⟨moment 600 0, 1, .ok oneRepository, .ok (), .ok oneRepository, .ok ()⟩

/-- the statistics service with the cache in the process, and nothing wrong elsewhere -/
def well (o : Sync.Outside) (r : Ask) (w : Sync.World Cache.Memory) : r.Reply × Sync.World Cache.Memory :=
  match r with
  | .sync r => Sync.World.answer Sync.Service.inProcess o r w
  | .pingDatabase => (.ok (), w)
  | .cacheHealthy => (true, w)
  | .credentials => ([], w)

/-- the request, and the refresh that it starts -/
def bannerAndRefresh : List (Program Calls (Option Response)) :=
  [some <$> bannerHandler hourly bannerForAnn, (fun _ => none) <$> sync (Sync.refresh hourly "ann")]

/-- the refresh is over before the request goes on to the publisher -/
def refreshFirst : List (Nat × Sync.Outside) :=
  List.replicate 4 (0, later) ++ List.replicate 6 (1, later) ++ List.replicate 3 (0, later)

def annEvent : Banner.Event :=
  ⟨"github_banner_info_ready", 1, moment 600 0, ⟨"ann", .wide, "ann.svg", .start 1, .epoch⟩⟩

/-- the entry that was found is published, and another one is in the cache by then -/
theorem published_once_refreshed : ∃ s response,
    (Interleaving.start ⟨.init hourly, oldEntry⟩ bannerAndRefresh).run? well refreshFirst = some s ∧
    attemptsOf (exchangesOf s.history 0) = [(annEvent, .ok ())] ∧
    (s.world.cache.get 1 "ann").1 = some ⟨⟨1, 1, 0, 5, 2, .ofList [("Rust", 1)]⟩, moment 600 0⟩ ∧
    s.programs[0]? = some (.done (some response)) ∧ Handled hourly bannerForAnn (exchangesOf s.history 0) response ∧
    response = .json 202 annEvent.toJson := by
  have hrun : ((Interleaving.start ⟨.init hourly, oldEntry⟩ bannerAndRefresh).run? well refreshFirst).map (fun s =>
      (attemptsOf (exchangesOf s.history 0), (s.world.cache.get 1 "ann").1, (s.programs[0]?.bind result?).isSome)) =
      some ([(annEvent, .ok ())], some ⟨⟨1, 1, 0, 5, 2, .ofList [("Rust", 1)]⟩, moment 600 0⟩, true) := by
    decide +kernel
  obtain ⟨s, hs, hend⟩ := Option.map_eq_some_iff.1 hrun
  obtain ⟨hattempts, hend⟩ := Prod.mk.inj hend
  obtain ⟨hcache, hover⟩ := Prod.mk.inj hend
  obtain ⟨a, ha⟩ := Option.isSome_iff_exists.1 hover
  obtain ⟨q, hq, hresult⟩ := Option.bind_eq_some_iff.1 ha
  rw [result?_eq_some.1 hresult] at hq
  obtain ⟨-, hfinal⟩ := (published_once hourly bannerForAnn).2.2 _ _ _ well _ _ some 0 _ _ rfl hs
  obtain ⟨response, rfl, hhandled⟩ := hfinal a hq
  have hbody : bannerRequest bannerForAnn = .ok ⟨" ann ", "wide", "ann.svg\n"⟩ := by decide +kernel
  have hpublished : Published hourly ⟨" ann ", "wide", "ann.svg\n"⟩ (exchangesOf s.history 0) response := by
    rwa [Handled, hbody] at hhandled
  exact ⟨s, response, hs, hattempts, hcache, hq, hhandled, (hpublished.answered annEvent hattempts).1⟩

end AccountStats.Web
