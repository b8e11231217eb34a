import Mathlib.Tactic
import AccountStats.Admin.Run
import AccountStats.Web.Banners
import AccountStats.Web.Stats
import AccountStats.Proofs.GitHub.Targets
import AccountStats.Proofs.Sweep.Interleaved
import AccountStats.Proofs.Sync.Failures
import AccountStats.Proofs.Sync.Requests
import AccountStats.Proofs.Web.Statuses
/-
Usernames that come in, and what is asked of GitHub for them.

Usernames come in over HTTP, in a request for a banner, from the store when all accounts are swept, and at the command
line. Each way in ends at a fetch; here the fetch goes over the network, and all else is asked as it is. Replies may be
anything, those of GitHub included, and the HTTP library is any that does what is documented of it. Results:
- `Sync.overNetwork_asks`, `Web.overNetwork_asks`: a program that fetches one account makes requests for that account
  only;
- `only_logins_reach_gitHub`: this holds of every way in;
- `redirected_elsewhere`: a redirect is followed to a target that is not one of the account.
-/
namespace AccountStats

open GitHub (AtStart OnBehalf WiredCalls)
open Http (Library)
open Program (Asks Beside Exchange Leads asks_ask asks_done)

variable {α : Type} {username : String} {lib : Library}

/-! ## Fetches over the network -/

section OverNetwork

variable {I : Interface} (wired : (r : I.Request) → Option (Program WiredCalls (I.Reply r)))

/-- a program some of whose requests are answered over the network -/
def overNetwork (p : Program I α) : Program (I.beside WiredCalls) α := p.through (Program.layered wired)

/-- what may be asked for, given the exchanges over the network before: these requests as they are, unless they are
answered over the network; and over the network, that -/
def Permitted (asIs : I.Request → Prop) (permitted : List (Exchange WiredCalls) → GitHub.Wired → Prop) :
    List (Exchange (I.beside WiredCalls)) → (I.beside WiredCalls).Request → Prop :=
  Beside (fun r => asIs r ∧ wired r = none) permitted

end OverNetwork

/-! ## The statistics service -/

namespace Sync

/-- a request that is about this account, if it fetches one or has it fetched -/
def Ask.Fetching (username : String) : Ask → Prop
  | .fetch u | .startRefresh u => u = username
  | _ => True

variable {policy : FreshnessPolicy} {ttl : Duration}

theorem pipeline_fetching : (pipeline username ttl).Asks fun _ => Ask.Fetching username := by
  refine Asks.bind_except (request_asks rfl) (fun f => asks_done _) fun snapshot => ?_
  exact afterFetch_asks trivial trivial (fun _ => trivial) fun _ => trivial

theorem resync_fetching : (resync username ttl).Asks fun _ => Ask.Fetching username :=
  pipeline_fetching.bind_except (fun _ => asks_done _) fun _ => asks_done _

theorem refresh_fetching : (refresh policy username).Asks fun _ => Ask.Fetching username := by
  refine pipeline_fetching.bind_except (fun f => ?_) fun e => ?_
  · exact Asks.bind_always (request_asks trivial) fun _ => request_asks trivial
  · exact Asks.bind_always (request_asks trivial) fun _ => request_asks trivial

theorem refreshLate_fetching : (refreshLate policy username).Asks fun _ => Ask.Fetching username :=
  Asks.bind_always (request_asks trivial) fun _ => request_asks trivial

theorem syncNow_fetching : (syncNow policy username).Asks fun _ => Ask.Fetching username := by
  refine pipeline_fetching.bind_except (fun f => asks_done _) fun e => ?_
  exact Asks.bind_always (request_asks trivial) fun _ => asks_done _

theorem recalculate_fetching : (recalculate policy username).Asks fun _ => Ask.Fetching username :=
  syncNow_fetching.bind_always fun _ => asks_done _

theorem lookupBehindCache_fetching : (lookupBehindCache policy username).Asks fun _ => Ask.Fetching username := by
  refine Asks.bind_always (request_asks trivial) fun _ => ?_
  refine Asks.bind_except (request_asks trivial) (fun f => ?_) fun snapshot => ?_
  · refine Asks.bind_always ?_ fun _ => syncNow_fetching
    rw [noteReadFailure]
    split
    · exact request_asks trivial
    · exact request_asks trivial
  · refine Asks.bind_always (request_asks trivial) fun now => ?_
    exact Asks.bind_always (storeInCache_asks trivial fun _ => trivial) fun _ => asks_done _

theorem getEntry_fetching : (getEntry policy username).Asks fun _ => Ask.Fetching username := by
  rw [getEntry_eq]
  refine asks_ask trivial fun x => ?_
  cases x with
  | error err => exact asks_ask trivial fun _ => lookupBehindCache_fetching
  | ok entry? =>
    cases entry? with
    | none => exact lookupBehindCache_fetching
    | some e =>
      refine asks_ask trivial fun now => ?_
      cases policy.classify e.updatedAt now with
      | fresh => exact asks_ask trivial fun _ => asks_done _
      | stale =>
        refine asks_ask trivial fun _ => asks_ask rfl fun granted => ?_
        cases granted with
        | true => exact asks_done _
        | false => exact asks_ask trivial fun _ => asks_done _
      | expired => exact asks_ask trivial fun _ => lookupBehindCache_fetching

theorem publish_fetching {layout : Banner.Layout} {storagePath : String} :
    (Banner.publish policy username layout storagePath).Asks fun _ => Ask.Fetching username := by
  refine getEntry_fetching.bind_except (fun f => asks_done _) fun e => ?_
  refine Asks.bind_always (request_asks trivial) fun now => ?_
  refine Asks.bind_except (request_asks trivial) (fun err => ?_) fun _ => ?_
  · exact Asks.bind_always (request_asks trivial) fun _ => asks_done _
  · exact Asks.bind_always (request_asks trivial) fun _ => asks_done _

/-- fetching is up to the fetcher, which asks GitHub over the network -/
def wired (lib : Library) (c : GitHub.Client) (tokens : List String) (r : Calls.Request) :
    Option (Program WiredCalls (Calls.Reply r)) := (fetching tokens r).map (c.overNetwork lib)

theorem wired_asks (hlib : lib.Documented) {c : GitHub.Client} {tokens : List String} {r : Calls.Request}
    {q : Program WiredCalls (Calls.Reply r)} (hr : Ask.Fetching username r) (hq : wired lib c tokens r = some q) :
    q.Asks (OnBehalf lib c username) := by
  cases r with
  | fetch u =>
    obtain rfl : u = username := hr
    cases hq
    exact GitHub.overNetwork_asks hlib c tokens u
  | _ => cases hq

/-- **What fetches one account makes requests for that account only.** -/
theorem overNetwork_asks (hlib : lib.Documented) (c : GitHub.Client) (tokens : List String) {p : Program Calls α}
    (hp : p.Asks fun _ => Ask.Fetching username) : (overNetwork (wired lib c tokens) p).Asks
      (Permitted (wired lib c tokens) (Ask.Fetching username) (OnBehalf lib c username)) :=
  hp.layered OnBehalf.append fun _ _ => wired_asks hlib

end Sync

/-! ## The handlers -/

namespace Web

def Ask.Fetching (username : String) : Ask → Prop
  | .sync r => r.Fetching username
  | _ => True

variable {policy : FreshnessPolicy}

theorem sync_fetching {p : Program Sync.Calls α} (hp : p.Asks fun _ => Sync.Ask.Fetching username) :
    (sync p).Asks fun _ => Ask.Fetching username :=
  Asks.through_always hp fun _ hr => asks_ask hr fun x => asks_done x

theorem respond_fetching (f : Failure) : (respond f).Asks fun _ => Ask.Fetching username := by
  rw [respond]
  split
  · exact asks_ask trivial fun _ => asks_done _
  · exact asks_done _

theorem statsHandler_fetching : (statsHandler policy username).Asks fun _ => Ask.Fetching username := by
  rw [statsHandler]
  split
  · exact (sync_fetching Sync.getEntry_fetching).bind_except respond_fetching fun e => asks_done _
  · exact respond_fetching _

theorem username_of_checkOrder {request : Banner.Request} {order : BannerOrder}
    (h : checkOrder request = .ok order) : order.username = Text.trimmed request.username := by
  unfold checkOrder at h
  dsimp only at h
  repeat' split at h
  all_goals cases h
  rfl

theorem publishBanner_fetching (request : Banner.Request) :
    (publishBanner policy request).Asks fun _ => Ask.Fetching (Text.trimmed request.username) := by
  unfold publishBanner
  cases horder : checkOrder request with
  | error f => exact respond_fetching f
  | ok order =>
    rw [← username_of_checkOrder horder]
    have hpublish : (sync (Banner.publish policy order.username order.layout order.storagePath)).Asks
        fun _ => Ask.Fetching order.username := sync_fetching Sync.publish_fetching
    exact hpublish.bind_except respond_fetching fun event => asks_done (Response.json 202 event.toJson)

def wired (lib : Library) (c : GitHub.Client) (tokens : List String) (r : Calls.Request) :
    Option (Program WiredCalls (Calls.Reply r)) := (fetching tokens r).map (c.overNetwork lib)

theorem overNetwork_asks (hlib : lib.Documented) (c : GitHub.Client) (tokens : List String) {p : Program Calls α}
    (hp : p.Asks fun _ => Ask.Fetching username) : (overNetwork (wired lib c tokens) p).Asks
      (Permitted (wired lib c tokens) (Ask.Fetching username) (OnBehalf lib c username)) := by
  refine hp.layered OnBehalf.append fun r q hr hq => ?_
  cases r with
  | sync r => exact Sync.wired_asks hlib hr hq
  | _ => cases hq

end Web

/-! ## The administration tool -/

namespace Admin

/-- a request that is no request to GitHub, and about this account if it fetches one or has it fetched -/
def Ask.Fetching (username : String) : Ask → Prop
  | .sync r => r.Fetching username
  | .startup (.gitHub _) => False
  | _ => True

/-- fetching is up to the fetcher; requests over HTTP are handed to the library -/
def wired (lib : Library) (c : GitHub.Client) (tokens : List String) :
    (r : Calls.Request) → Option (Program WiredCalls (Calls.Reply r))
  | .sync r => Sync.wired lib c tokens r
  | .startup (.gitHub w) => some (GitHub.carry lib w)
  | _ => none

/-- what the tool may ask GitHub for: what is needed to fill the pool, or for the account -/
def OnBehalf (lib : Library) (c : GitHub.Client) (username : String) (es : List (Exchange WiredCalls))
    (w : GitHub.Wired) : Prop :=
  AtStart lib c es w ∨ GitHub.OnBehalf lib c username es w

/-- a program of the tool that asks for nothing else -/
def Reaches (lib : Library) (c : GitHub.Client) (tokens : List String) (username : String) (p : Program Calls α) :
    Prop :=
  (overNetwork (wired lib c tokens) p).Asks
    (Permitted (wired lib c tokens) (Ask.Fetching username) (OnBehalf lib c username))

variable {c : GitHub.Client} {tokens : List String}

theorem OnBehalf.append {es : List (Exchange WiredCalls)} {w : GitHub.Wired} (h : OnBehalf lib c username es w)
    (before : List (Exchange WiredCalls)) : OnBehalf lib c username (before ++ es) w :=
  h.imp (fun hstart => hstart.append before) fun hfetch => hfetch.append before

theorem reaches_done (a : α) : Reaches lib c tokens username (.done a) := asks_done a

theorem Reaches.bind {β : Type} {p : Program Calls α} {f : α → Program Calls β} (hp : Reaches lib c tokens username p)
    (hf : ∀ a, Reaches lib c tokens username (f a)) : Reaches lib c tokens username (p >>= f) := by
  unfold Reaches overNetwork
  rw [Program.through_bind]
  exact Asks.bind hp fun es a _ => (hf a).imp fun es' r h => h.append OnBehalf.append es

theorem Reaches.of_asks (hlib : lib.Documented) {p : Program Calls α} (hp : p.Asks fun _ => Ask.Fetching username) :
    Reaches lib c tokens username p := by
  refine hp.layered OnBehalf.append fun r q hr hq => ?_
  cases r with
  | sync r => exact (Sync.wired_asks hlib hr hq).imp fun _ _ h => Or.inr h
  | startup r =>
    cases r with
    | gitHub w => cases hr
    | _ => cases hq
  | _ => cases hq

/-! ### Parts of a command -/

theorem print_fetching (lines : List String) : (print lines).Asks fun _ => Ask.Fetching username := by
  induction lines with
  | nil => exact asks_done _
  | cons line lines ih => exact asks_ask trivial fun _ => ih

/-- a request at the start of which GitHub learns nothing -/
def Elsewhere : Startup.Ask → Prop
  | .gitHub _ => False
  | _ => True

theorem startup_fetching {p : Program Startup.Calls α} (hp : p.Asks fun _ => Elsewhere) :
    (startup p).Asks fun _ => Ask.Fetching username := by
  refine Asks.through_always hp fun r hr => ?_
  refine asks_ask ?_ fun x => asks_done x
  cases r with
  | gitHub w => cases hr
  | _ => trivial

theorem attemptDatabase_elsewhere (url : String) (pauses : List Nat) :
    (Startup.attemptDatabase url pauses).Asks fun _ => Elsewhere := by
  induction pauses with
  | nil =>
    refine asks_ask trivial fun x => ?_
    cases x with
    | ok _ => exact asks_done _
    | error e => exact asks_ask trivial fun _ => asks_done _
  | cons pause rest ih =>
    refine asks_ask trivial fun x => ?_
    cases x with
    | ok _ => exact asks_done _
    | error e => exact asks_ask trivial fun _ => asks_ask trivial fun _ => ih

theorem redis_elsewhere (p : Program Redis.Calls α) : (Startup.redis p).Asks fun _ => Elsewhere := by
  have hany : p.Asks fun _ _ => True := fun _ _ _ _ => trivial
  exact Asks.through_always hany fun r _ => asks_ask trivial fun x => asks_done x

theorem connectPublisher_elsewhere (s : Settings) : (Startup.connectPublisher s).Asks fun _ => Elsewhere := by
  unfold Startup.connectPublisher
  cases s.redisUrl with
  | none => exact asks_ask trivial fun _ => asks_done _
  | some url =>
    refine (redis_elsewhere _).bind_except (fun e => ?_) fun _ => ?_
    · exact asks_ask trivial fun _ => asks_done _
    · exact asks_ask trivial fun _ => asks_done _

/-- the requests over HTTP of a start are handed to the library -/
theorem overNetwork_gitHub (q : Program WiredCalls α) :
    overNetwork (wired lib c tokens) (startup (Startup.gitHub q)) =
      (q.through (GitHub.carry lib)).through fun w => Program.ask (I := Calls.beside WiredCalls) (.inr w) .done := by
  rw [Program.through_through]
  induction q with
  | done a => rfl
  | ask w next ih =>
    exact congrArg (((GitHub.carry lib w).through fun w => Program.ask (I := Calls.beside WiredCalls) (.inr w) .done).bind)
      (funext ih)

theorem reaches_connectServices (hlib : lib.Documented) (s : Settings) :
    Reaches lib (Startup.client s) tokens username (startup (Startup.connectServices s)) := by
  have hpool : Reaches lib (Startup.client s) tokens username
      (startup (Startup.gitHub ((Startup.client s).overHttp (GitHub.connectPool s.tokens)))) := by
    unfold Reaches
    rw [overNetwork_gitHub, ← GitHub.overNetwork_eq]
    have hstart := GitHub.connectPool_overNetwork_asks hlib (Startup.client s) s.tokens
    exact Program.asks_through_inr (hstart.imp fun _ _ h => Or.inl h)
  unfold Startup.connectServices startup
  rw [Program.through_bind]
  refine hpool.bind fun pool => Reaches.of_asks hlib (startup_fetching ?_)
  refine Asks.bind_always (asks_ask trivial fun x => asks_done x) fun _ => ?_
  exact (connectPublisher_elsewhere s).bind_always fun publisher => asks_done _

/-! ### Commands -/

theorem reaches_step {β : Type} {x : Step α} {f : α → Step β} (hx : Reaches lib c tokens username x.run)
    (hf : ∀ a, Reaches lib c tokens username (f a).run) : Reaches lib c tokens username (x >>= f).run := by
  rw [ExceptT.run_bind]
  refine hx.bind fun result => ?_
  cases result with
  | error e => exact reaches_done _
  | ok a => exact hf a

theorem reaches_lift {p : Program Calls α} (hp : Reaches lib c tokens username p) :
    Reaches lib c tokens username (ExceptT.lift p : Step α).run := hp.bind fun _ => reaches_done _

theorem reaches_say (hlib : lib.Documented) (lines : List String) :
    Reaches lib c tokens username (Step.say lines).run := reaches_lift (.of_asks hlib (print_fetching lines))

theorem reaches_connectDatabase (hlib : lib.Documented) (s : Settings) :
    Reaches lib c tokens username (connectDatabase s).run := by
  refine .of_asks hlib (startup_fetching ?_)
  exact (attemptDatabase_elsewhere _ _).bind_always fun result => asks_done _

/-- **The command that shows statistics** asks GitHub for what fills the pool, and for the account. -/
theorem reaches_showStats (hlib : lib.Documented) (s : Settings) :
    Reaches lib (Startup.client s) tokens username (showStats s username).run := by
  have hsync : (sync (Sync.getEntry s.policy username)).Asks fun _ => Ask.Fetching username :=
    Asks.through_always Sync.getEntry_fetching fun r hr => asks_ask hr fun x => asks_done x
  refine reaches_step (reaches_say hlib _) fun _ => ?_
  refine reaches_step (reaches_connectDatabase hlib s) fun _ => ?_
  refine reaches_step (reaches_lift (reaches_connectServices hlib s)) fun _ => ?_
  refine reaches_step (reaches_lift (.of_asks hlib hsync)) fun result => ?_
  cases result with
  | ok e => exact reaches_say hlib _
  | error f => exact reaches_done _

end Admin

/-! ## All ways in -/

/-- a sweep of these accounts, with its fetches over the network -/
def Sweep.planOverNetwork (lib : Library) (c : GitHub.Client) (tokens : List String) (config : Sweep.Config)
    (usernames : List String) : Sweep.Plan (Sync.Calls.beside WiredCalls) :=
  .ofConfig config (.ok usernames) fun u ttl => overNetwork (Sync.wired lib c tokens) (Sync.resync u ttl)

/-- what is asked for usernames, wherever they come in. Nothing is asked of GitHub for a name that is not spelled as a
login: neither a request over HTTP, nor a step on the pool such as a lease. -/
structure OnlyLogins (lib : Library) (c : GitHub.Client) (tokens : List String) (policy : FreshnessPolicy) : Prop where
  stats : ∀ u, (overNetwork (Web.wired lib c tokens) (Web.statsHandler policy u)).Asks
    (Permitted (Web.wired lib c tokens) (Web.Ask.Fetching u) (OnBehalf lib c u))
  /-- blanks around the name in a request for a banner do not count -/
  banner : ∀ request u, u = Text.trimmed request.username →
    (overNetwork (Web.wired lib c tokens) (Web.publishBanner policy request)).Asks
      (Permitted (Web.wired lib c tokens) (Web.Ask.Fetching u) (OnBehalf lib c u))
  lookup : ∀ u, (overNetwork (Sync.wired lib c tokens) (Sync.getEntry policy u)).Asks
    (Permitted (Sync.wired lib c tokens) (Sync.Ask.Fetching u) (OnBehalf lib c u))
  recalculation : ∀ u, (overNetwork (Sync.wired lib c tokens) (Sync.recalculate policy u)).Asks
    (Permitted (Sync.wired lib c tokens) (Sync.Ask.Fetching u) (OnBehalf lib c u))
  /-- a refresh that was started for a name, in time or not -/
  refresh : ∀ u, ∀ p ∈ [Sync.refresh policy u, Sync.refreshLate policy u], (overNetwork (Sync.wired lib c tokens) p).Asks
    (Permitted (Sync.wired lib c tokens) (Sync.Ask.Fetching u) (OnBehalf lib c u))
  /-- the next request of a worker, at any moment of a sweep over any stored usernames -/
  sweep : ∀ {σ : Type} config usernames cancelled (world : σ) answer ops s,
    (Sweep.State.init (Sweep.planOverNetwork lib c tokens config usernames) world cancelled).run?
      (Sweep.planOverNetwork lib c tokens config usernames) answer ops = some s →
    ∀ (i : Nat) job r next, s.workers[i]? = some (.syncing job (.ask r next)) → job.username ∈ usernames ∧ ∃ es,
      (overNetwork (Sync.wired lib c tokens) (Sync.resync job.username config.normalized.ttl)).Leads es (.ask r next) ∧
      Permitted (Sync.wired lib c tokens) (Sync.Ask.Fetching job.username) (OnBehalf lib c job.username) es r
  /-- at the command line, the pool is filled first -/
  tool : ∀ s u, c = Startup.client s → (overNetwork (Admin.wired lib c tokens) (Admin.showStats s u).run).Asks
    (Permitted (Admin.wired lib c tokens) (Admin.Ask.Fetching u) (Admin.OnBehalf lib c u))

/-- a sweep synchronizes accounts of the listing only, and each of them makes requests for that account only -/
theorem Sweep.syncing_asks (hlib : lib.Documented) {σ : Type} {c : GitHub.Client} {tokens : List String}
    {config : Sweep.Config} {usernames : List String} {cancelled : Bool} {world : σ} {ops : List Sweep.Op}
    {answer : (r : (Sync.Calls.beside WiredCalls).Request) → σ → (Sync.Calls.beside WiredCalls).Reply r × σ}
    {s : Sweep.State (Sync.Calls.beside WiredCalls) σ}
    (hrun : (Sweep.State.init (Sweep.planOverNetwork lib c tokens config usernames) world cancelled).run?
      (Sweep.planOverNetwork lib c tokens config usernames) answer ops = some s)
    {i : Nat} {job : Sweep.Job} {r : (Sync.Calls.beside WiredCalls).Request}
    {next : (Sync.Calls.beside WiredCalls).Reply r → Program (Sync.Calls.beside WiredCalls) (Except Failure Unit)}
    (hi : s.workers[i]? = some (.syncing job (.ask r next))) :
    job.username ∈ usernames ∧ ∃ es,
      (overNetwork (Sync.wired lib c tokens) (Sync.resync job.username config.normalized.ttl)).Leads es (.ask r next) ∧
      Permitted (Sync.wired lib c tokens) (Sync.Ask.Fetching job.username) (OnBehalf lib c job.username) es r := by
  have haccounts := Sweep.accounts_of_run hrun
  have hjob := Sweep.jobs_of_begun haccounts (Sweep.begun_of_running haccounts hi)
  obtain ⟨moments, m, hm, hreflects⟩ := Sweep.reflects_of_run hrun
  obtain ⟨p, hp, hleads⟩ := (Interleaving.leads_of_run hm).of_getElem? (hreflects.running i job _ hi)
  rw [Sweep.Plan.programs, List.getElem?_map, Sweep.getElem?_jobs.2 ⟨hjob, rfl⟩] at hp
  cases hp
  refine ⟨?_, _, hleads, Sync.overNetwork_asks hlib c tokens Sync.resync_fetching _ _ _ hleads⟩
  rw [← Sweep.username_jobsOf usernames]
  exact List.mem_map_of_mem hjob

/-- **Only logins reach GitHub**, wherever a username comes in and whatever is replied. Each request for an account goes
to a target of that account, or where the response to the request just before it redirects it. -/
theorem only_logins_reach_gitHub (lib : Library) (hlib : lib.Documented) (c : GitHub.Client) (tokens : List String)
    (policy : FreshnessPolicy) : OnlyLogins lib c tokens policy where
  stats _ := Web.overNetwork_asks hlib c tokens Web.statsHandler_fetching
  banner request u hu := by
    rw [hu]
    exact Web.overNetwork_asks hlib c tokens (Web.publishBanner_fetching request)
  lookup _ := Sync.overNetwork_asks hlib c tokens Sync.getEntry_fetching
  recalculation _ := Sync.overNetwork_asks hlib c tokens Sync.recalculate_fetching
  refresh u p hp := by
    simp only [List.mem_cons, List.not_mem_nil, or_false] at hp
    rcases hp with rfl | rfl
    · exact Sync.overNetwork_asks hlib c tokens Sync.refresh_fetching
    · exact Sync.overNetwork_asks hlib c tokens Sync.refreshLate_fetching
  sweep _ _ _ _ _ _ _ hrun _ _ _ _ hi := Sweep.syncing_asks hlib hrun hi
  tool s u hc := by
    rw [hc]
    exact Admin.reaches_showStats hlib s

/-! ## Redirects -/

/-- GitHub, and the request for the account of ann -/
def publicGitHub : GitHub.Client := ⟨"https://api.github.com"⟩

def requestForAnn : Http.Get where
  url := "https://api.github.com/users/ann"
  headers := [("accept", "application/vnd.github+json"), ("authorization", "Bearer tok"),
    ("user-agent", "github-stats/0.1.0"), ("x-github-api-version", "2022-11-28")]

/-- a response that says that it is elsewhere, and the request that it leads to -/
def foundElsewhere : Http.Outcome := .response 302 [("location", "/elsewhere".toUTF8)] (.whole .empty)

def requestElsewhere : Http.Get := Library.redirectedTo requestForAnn "https://api.github.com/elsewhere"

theorem request?_ann : publicGitHub.request? "tok" (GitHub.Client.userTarget "ann") = some requestForAnn := by
  decide +kernel

theorem place?_ann : Http.place? Library.onSameServer? ⟨requestForAnn, foundElsewhere⟩ =
    some "https://api.github.com/elsewhere" := by
  decide +kernel

/-- a fetch of ann gets as far as the request that the redirect leads to -/
theorem fetch_redirected : ∃ rest, (publicGitHub.overNetwork .following (GitHub.fetchAccount ["tok"] "ann")).Leads
    [⟨.other (.check 0), GitHub.Pool.Check.reserved⟩, ⟨.get requestForAnn, foundElsewhere⟩]
    (.ask (.get requestElsewhere) rest) := by
  have hlogin : GitHub.isLogin "ann" = true := by decide
  have hsent := GitHub.leads_gets (Library.follow_leads (n := 9) place?_ann)
  have hcall : ∃ rest, (publicGitHub.deliver .following (.getUser "tok" "ann")).Leads
      [⟨.get requestForAnn, foundElsewhere⟩] (.ask (.get requestElsewhere) rest) := by
    change ∃ rest, ((publicGitHub.call "tok" (GitHub.Client.userTarget "ann") GitHub.User.ofJson?).through
      (GitHub.carry .following)).Leads _ (.ask _ rest)
    rw [GitHub.Client.call, request?_ann]
    exact ⟨_, hsent.bind _⟩
  obtain ⟨rest, hcall⟩ := hcall
  rw [GitHub.fetchAccount, if_pos hlogin]
  exact ⟨_, .ask (hcall.bind _)⟩

theorem recalculation_redirected : ∃ es rest,
    (overNetwork (Sync.wired .following publicGitHub ["tok"]) (Sync.recalculate .standard "ann")).Leads es
      (.ask (.inr (.get requestElsewhere)) rest) := by
  obtain ⟨rest, hfetch⟩ := fetch_redirected
  exact ⟨_, _, (Program.leads_through_inr hfetch).bind _⟩

/-- with a library that follows redirects; a recalculation of ann is sent elsewhere by one -/
theorem only_logins_reach_gitHub_redirected : Library.following.Documented ∧
    OnlyLogins .following publicGitHub ["tok"] .standard ∧ ∃ es rest,
      (overNetwork (Sync.wired .following publicGitHub ["tok"]) (Sync.recalculate .standard "ann")).Leads es
        (.ask (.inr (.get requestElsewhere)) rest) :=
  ⟨Library.following_documented, only_logins_reach_gitHub .following Library.following_documented publicGitHub ["tok"]
    .standard, recalculation_redirected⟩

/-- the targets of an account are under `/rate_limit` and `/users` -/
theorem second_of_target {login target : String} (h : GitHub.Target login target) :
    target.toList[1]? = some 'r' ∨ target.toList[1]? = some 'u' := by
  cases h with
  | rateLimit => exact Or.inl rfl
  | user => simp
  | listing _ => simp

/-- **A redirect is followed to another target**: not every request for an account goes to a target of it. -/
theorem redirected_elsewhere : ¬ ∀ (lib : Library) (c : GitHub.Client) (tokens : List String) (policy : FreshnessPolicy)
    (u : String), lib.Documented →
    (overNetwork (Sync.wired lib c tokens) (Sync.recalculate policy u)).Asks fun _ r =>
      ∀ w get, r = .inr w → w.sent? = some get → ∃ target, GitHub.Target u target ∧ get.url = c.base ++ target := by
  intro hall
  obtain ⟨es, rest, hleads⟩ := recalculation_redirected
  obtain ⟨target, htarget, hurl⟩ :=
    hall _ _ _ _ _ Library.following_documented _ _ _ hleads _ _ rfl rfl
  have hsplit : requestElsewhere.url = publicGitHub.base ++ "/elsewhere" := by decide
  have hchars : "/elsewhere".toList = target.toList := by
    have happend := congrArg String.toList (hsplit.symm.trans hurl)
    rwa [String.toList_append, String.toList_append, List.append_cancel_left_eq] at happend
  have hsecond := second_of_target htarget
  rw [← hchars] at hsecond
  exact absurd hsecond (by decide)

end AccountStats
