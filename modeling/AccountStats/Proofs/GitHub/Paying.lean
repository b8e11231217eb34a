import Mathlib.Tactic
import AccountStats.Proofs.GitHub.Settling
import AccountStats.Proofs.Program.Layers
/-
A fetch over the network pays for every call once, and what GitHub reports settles on the credential that paid.

The fetch is alone on its pool; GitHub and the clock reply however they like, and the HTTP library is any that does what
is documented of it. Results:
- `pool_of_deliver`, `along_of_replied`: in a run the pool is the one that the exchanges lead to;
- `calls_settle`: each call of a fetch shows the token of the lease just granted and settles on its credential, and
  which other exchanges change a credential;
- `redirect_unsettled`: what a response that redirects reports is not settled.
-/
namespace AccountStats.GitHub

open Http (Library)
open Program (Answered Exchange Replied Runs answered_append answered_cons exists_runs leads_done_iff_runs
  replied_append replied_cons replied_nil runs_ask runs_done runs_through)

variable {es before later : List (Exchange Calls)} {e : Exchange Calls} {username : String}

/-! ## The network and the pool -/

/-- what replies to single requests over HTTP, and the clock; they reply however they like, with a state of their own -/
structure Network (ω : Type) where
  now : ω → Time.Instant × ω
  get : Http.Get → ω → Http.Outcome × ω
  probe : Http.Get → ω → Option Http.Outcome × ω

/-- the clock, and no replies of GitHub, which is only asked over HTTP -/
def Outside.clock (now : Time.Instant) : Outside := ⟨now, .error .timedOut, .error .timeout, .error .timeout⟩

/-- the network and the pool, which nobody else uses, reply to a fetch -/
def Network.answer {ω : Type} (network : Network ω) (r : Wired) (s : ω × Pool) : r.Reply × (ω × Pool) :=
  match r with
  | .get r =>
    let (x, w) := network.get r s.1
    (x, w, s.2)
  | .probe r =>
    let (x, w) := network.probe r s.1
    (x, w, s.2)
  | .other r =>
    let (now, w) := network.now s.1
    let (x, p) := Pool.answer (.clock now) r s.2
    (x, w, p)

section Run

variable {ω : Type} {network : Network ω} {s t : ω × Pool} {lib : Library} {c : Client}
  {hops : List (Exchange WiredCalls)}

/-- requests over HTTP leave the pool as it is -/
theorem pool_of_sent (h : Replied network.answer s hops t) (hsent : ∀ e ∈ hops, ∃ r, e.request.sent? = some r) :
    t.2 = s.2 := by
  induction h with
  | rest _ => rfl
  | @ask s t r hops _ ih =>
    obtain ⟨⟨_, hr⟩, hrest⟩ := List.forall_mem_cons.1 hsent
    rw [ih hrest]
    cases r with
    | get r => rfl
    | probe r => rfl
    | other r => cases hr

theorem Carried.allSent {token path : String} {outcome : Http.Outcome} (h : Carried lib c token path hops outcome) :
    ∀ e ∈ hops, ∃ r, e.request.sent? = some r := by
  cases h with
  | unmade _ => exact fun _ he => absurd he List.not_mem_nil
  | sent _ _ _ =>
    intro e he
    obtain ⟨e, -, rfl⟩ := List.mem_map.1 he
    exact ⟨e.request, rfl⟩

theorem sent_of_probe (hlib : lib.Documented) {token : String} {x : Except ProbeError Quota}
    (h : Runs ((c.probe token).through (carry lib)) hops x) : ∀ e ∈ hops, ∃ r, e.request.sent? = some r := by
  intro e he
  obtain ⟨earlier, rest, rfl⟩ := List.append_of_mem he
  have hquota : ForQuota Client.rateLimitTarget := rfl
  obtain ⟨-, r, hr⟩ := (probe_asks hlib token hquota).of_leads (leads_done_iff_runs.2 h)
  exact ⟨r, by rw [hr]; rfl⟩

theorem pool_of_other {r : Ask} {x : r.Reply} (h : Runs (Program.ask (I := WiredCalls) (Wired.other r) .done) hops x)
    (hreplied : Replied network.answer s hops t) : t.2 = s.2.after ⟨r, x⟩ := by
  obtain ⟨x, rest, rfl, hdone⟩ := runs_ask.1 h
  obtain ⟨rfl, rfl⟩ := runs_done.1 hdone
  obtain ⟨rfl, hrest⟩ := replied_cons.1 hreplied
  rw [replied_nil.1 hrest]
  exact Pool.answer_after (.clock (network.now s.1).1) r s.2

/-- **The pool after a request has been answered** is the one that its exchange leads to. -/
theorem pool_of_deliver (hlib : lib.Documented) {r : Ask} {x : r.Reply} (h : Runs (c.deliver lib r) hops x)
    (hreplied : Replied network.answer s hops t) : t.2 = s.2.after ⟨r, x⟩ := by
  cases r with
  | probe token => exact pool_of_sent hreplied (sent_of_probe hlib h)
  | getUser token login =>
    obtain ⟨outcome, hcarried, -⟩ := runs_call_iff hlib h
    exact pool_of_sent hreplied hcarried.allSent
  | listRepositories token login page =>
    obtain ⟨outcome, hcarried, -⟩ := runs_call_iff hlib h
    exact pool_of_sent hreplied hcarried.allSent
  | now | check _ | install _ _ | record _ _ | note _ => exact pool_of_other h hreplied

theorem along_of_replied (hlib : lib.Documented) {fs : List (Exchange WiredCalls)}
    (h : Answered (c.deliver lib) es fs) (hreplied : Replied network.answer s fs t) : t.2 = s.2.along es := by
  induction h generalizing s with
  | nil =>
    rw [replied_nil.1 hreplied]
    rfl
  | cons hruns _ ih =>
    obtain ⟨u, hfirst, hrest⟩ := replied_append.1 hreplied
    rw [ih hrest, pool_of_deliver hlib hruns hfirst]
    rfl

end Run

/-! ## A fetch over the network -/

/-- a call of a fetch: it shows the token of the lease that was granted just before, and what comes of it settles just
after, on the credential that was leased -/
inductive PaidCall (lib : Library) (c : Client) (username : String) (pool : Pool) (fs : List (Exchange WiredCalls)) :
    List (Exchange Calls) → Exchange Calls → List (Exchange Calls) → Prop where
  | mk (scan rest : List (Exchange Calls)) (fs₁ hops fs₂ : List (Exchange WiredCalls)) {g : Exchange Calls} {l : Lease}
      {piece : Piece} {outcome : Http.Outcome} :
      grant? g = some l.index → (pool.map Credential.token)[l.index]? = some l.token →
      fs = fs₁ ++ (hops ++ fs₂) → Answered (c.deliver lib) (scan ++ [g]) fs₁ →
      Carried lib c l.token (piece.target username) hops outcome →
      SettlesOn l.index outcome (pool.along (scan ++ [g]))
        (pool.along (scan ++ [g] ++
          piece.exchange l.token username (piece.read outcome) :: settlement l (reported? outcome))) →
      PaidCall lib c username pool fs (scan ++ [g]) (piece.exchange l.token username (piece.read outcome))
        (settlement l (reported? outcome) ++ rest)

/-- a fetch, its exchanges over the network, and what they do to the pool -/
structure FetchSettled {ω : Type} (network : Network ω) (w : ω) (lib : Library) (c : Client) (username : String)
    (pool : Pool) (es : List (Exchange Calls)) (fs : List (Exchange WiredCalls)) : Prop where
  /-- all along, the pool is the one that the exchanges lead to -/
  pools : ∀ before later, es = before ++ later → ∃ fs₁ fs₂ s, fs = fs₁ ++ fs₂ ∧ Answered (c.deliver lib) before fs₁ ∧
    Replied network.answer (w, pool) fs₁ s ∧ s.2 = pool.along before
  /-- there are as many calls as leases that were granted -/
  paid : es.countP (fun e => e.request.isPaid) = es.countP fun e => (grant? e).isSome
  calls : ∀ before e later, es = before ++ e :: later → e.request.isPaid = true →
    PaidCall lib c username pool fs before e later
  /-- what changes a credential: a unit reserved, a quota that a probe was replied to with, and the settlement of a call
  that it was leased for -/
  changes : ∀ before e later i, es = before ++ e :: later →
    (pool.along (before ++ [e]))[i]? ≠ (pool.along before)[i]? →
    Touches (pool.map Credential.token) username before e i

theorem OneCall.overNetwork {lib : Library} {c : Client} {pool : Pool} {fs : List (Exchange WiredCalls)}
    (hlib : lib.Documented) (h : OneCall (pool.map Credential.token) username before e later)
    (hanswered : Answered (c.deliver lib) (before ++ e :: later) fs) : PaidCall lib c username pool fs before e later := by
  obtain ⟨fs₁, fs', rfl, hbefore, hrest⟩ := answered_append.1 hanswered
  obtain ⟨hops, fs₂, rfl, hruns, -⟩ := answered_cons.1 hrest
  cases h with
  | @mk scan rest g l piece x hgrant htoken =>
    obtain ⟨outcome, hcarried, rfl⟩ := runs_deliver_piece hlib hruns
    rw [piece.reportOf?_read outcome]
    refine .mk scan rest fs₁ hops fs₂ hgrant htoken rfl hbefore hcarried ?_
    rw [Pool.along_append pool (scan ++ [g])]
    exact settlesOn _ l piece outcome

/-- **Every call of a fetch is paid for once and settles on the credential that paid**, whatever GitHub replies over the
network. -/
theorem calls_settle {ω : Type} (network : Network ω) (w : ω) (lib : Library) (hlib : lib.Documented) (c : Client)
    (username : String) (pool : Pool) :
    ∃ es fs, Runs (fetchAccount (pool.map Credential.token) username) es
        ((c.overNetwork lib (fetchAccount (pool.map Credential.token) username)).run network.answer (w, pool)).1 ∧
      Replied network.answer (w, pool) fs
        ((c.overNetwork lib (fetchAccount (pool.map Credential.token) username)).run network.answer (w, pool)).2 ∧
      FetchSettled network w lib c username pool es fs := by
  obtain ⟨fs, hruns, hreplied⟩ :=
    exists_runs network.answer (c.overNetwork lib (fetchAccount (pool.map Credential.token) username)) (w, pool)
  obtain ⟨es, hfetch, hanswered⟩ := runs_through.1 hruns
  have hsettles := (runs_fetchAccount_iff.1 hfetch).settles
  refine ⟨es, fs, hfetch, hreplied, ?_⟩
  exact
    { pools := by
        rintro before later rfl
        obtain ⟨fs₁, fs₂, rfl, hbefore, -⟩ := answered_append.1 hanswered
        obtain ⟨s, hs, -⟩ := replied_append.1 hreplied
        exact ⟨fs₁, fs₂, s, rfl, hbefore, hs, along_of_replied hlib hbefore hs⟩
      paid := hsettles.paid
      calls := by
        rintro before e later rfl he
        exact (hsettles.calls before e later rfl he).overNetwork hlib hanswered
      changes := by
        intro before e later i hsplit hchanged
        refine hsettles.touches before e later hsplit i ?_
        by_contra hnot
        rw [Pool.along_append] at hchanged
        exact hchanged (Pool.getElem?_after hnot) }

/-! ## Redirects -/

/-- GitHub, and the request for the profile of ann -/
def nearby : Client := ⟨"http://gh"⟩

def forAnn : Http.Get where
  url := "http://gh/users/ann"
  headers := [("accept", "application/vnd.github+json"), ("authorization", "Bearer tok"),
    ("user-agent", "github-stats/0.1.0"), ("x-github-api-version", "2022-11-28")]

/-- a response that says that the profile is elsewhere, and that 7 requests are left -/
def movedHeaders : Http.Headers := [("location", "/elsewhere".toUTF8), ("x-ratelimit-remaining", "7".toUTF8)]
def moved : Http.Outcome := .response 302 movedHeaders (.whole .empty)

def forAnnElsewhere : Http.Get where
  url := "http://gh/elsewhere"
  headers := forAnn.headers ++ [("referer", "http://gh/users/ann")]

/-- a response that says that nothing is there either, and that 3 requests are left -/
def missing : Http.Outcome := .response 404 [("x-ratelimit-remaining", "3".toUTF8)] (.whole .empty)

/-- a network that replies with these outcomes, one after another, and then no more -/
def scripted : Network (List Http.Outcome) where
  now w := (.epoch, w)
  get _ w := (w.head?.getD .timeout, w.tail)
  probe _ w := (none, w)

/-- of a redirect and of the 404 that it leads to, the latter settles -/
theorem calls_settle_moved : Library.following.Documented ∧
    ((nearby.overNetwork .following (fetchAccount ["tok"] "ann")).run scripted.answer
      ([moved, missing], [⟨"tok", ⟨5, .epoch⟩⟩])).2.2 = [⟨"tok", ⟨3, .epoch⟩⟩] ∧
    ∃ es fs, Runs (fetchAccount ["tok"] "ann") es (.error (failure "ann" (.notFound ⟨some 3, none⟩))) ∧
      FetchSettled scripted [moved, missing] .following nearby "ann" [⟨"tok", ⟨5, .epoch⟩⟩] es fs := by
  have hresult : ((nearby.overNetwork .following (fetchAccount ["tok"] "ann")).run scripted.answer
      ([moved, missing], [⟨"tok", ⟨5, .epoch⟩⟩])).1 = .error (failure "ann" (.notFound ⟨some 3, none⟩)) := by
    rfl
  obtain ⟨es, fs, hruns, -, hsettled⟩ := calls_settle scripted [moved, missing] .following Library.following_documented
    nearby "ann" [⟨"tok", ⟨5, .epoch⟩⟩]
  exact ⟨Library.following_documented, by decide +kernel, es, fs, hresult ▸ hruns, hsettled⟩

theorem place?_moved : Http.place? Library.onSameServer? ⟨forAnn, moved⟩ = some "http://gh/elsewhere" := by
  decide +kernel

/-- a fetch of ann: the profile has moved, and the place that it has moved to does not reply -/
def annMoved : List (Exchange WiredCalls) :=
  [⟨.other (.check 0), Pool.Check.reserved⟩, ⟨.get forAnn, moved⟩, ⟨.get forAnnElsewhere, .timeout⟩,
    ⟨.other (.note (.warn "GitHub request failed" [("username", "ann"), ("error", "GitHub request timed out")])), ()⟩]

theorem runs_annMoved :
    Runs (nearby.overNetwork .following (fetchAccount ["tok"] "ann")) annMoved (.error (failure "ann" .timeout)) := by
  have helsewhere : Library.redirectedTo forAnn "http://gh/elsewhere" = forAnnElsewhere := by decide +kernel
  have hsent : Runs (Library.following.send forAnn) [⟨forAnn, moved⟩, ⟨forAnnElsewhere, .timeout⟩] .timeout := by
    refine (Library.follow_leads place?_moved).runs ?_
    rw [helsewhere]
    exact .ask (.done _)
  have hcall : Runs (nearby.deliver .following (.getUser "tok" "ann"))
      [⟨.get forAnn, moved⟩, ⟨.get forAnnElsewhere, .timeout⟩] (.error .timeout) := by
    have hrequest : nearby.request? "tok" (Client.userTarget "ann") = some forAnn := by decide +kernel
    change Runs ((nearby.call "tok" (Client.userTarget "ann") User.ofJson?).through (carry .following)) _ _
    rw [Client.call, hrequest]
    exact (runs_gets.2 ⟨_, hsent, rfl⟩).append (.done _)
  have hleasing : Runs (acquire ["tok"]) [⟨.check 0, .reserved⟩] (some ⟨0, "tok"⟩) := .ask (.done _)
  refine runs_through.2 ⟨_, runs_fetchAccount_iff.2 (.noProfile (by decide) (.failed .timeout hleasing)), ?_⟩
  refine answered_cons.2 ⟨[_], _, rfl, .ask (.done _), ?_⟩
  refine answered_cons.2 ⟨[_, _], _, rfl, hcall, ?_⟩
  exact answered_cons.2 ⟨[_], [], rfl, .ask (.done _), .nil⟩

/-- no response comes in this exchange, and no lease is sought -/
def Quiet (e : Exchange WiredCalls) : Prop :=
  (∀ r x, e = ⟨.get r, x⟩ → x = .timeout) ∧ ∀ i, e.request ≠ .other (.check i)

/-- **What a response that redirects reports is not settled**: after the last response, if that is one, there need not
be as many requests left as it has reported. -/
theorem redirect_unsettled : ¬ ∀ (ω : Type) (network : Network ω) (w : ω) (lib : Library) (c : Client)
    (username : String) (pool : Pool) (before later : List (Exchange WiredCalls)) (r : Http.Get) (status : Nat)
    (headers : Http.Headers) (body : Http.Body) (n : UInt32) (result : Except Failure Snapshot) (s : ω × Pool),
    lib.Documented →
    Runs (c.overNetwork lib (fetchAccount (pool.map Credential.token) username))
      (before ++ ⟨.get r, .response status headers body⟩ :: later) result →
    Replied network.answer (w, pool) (before ++ ⟨.get r, .response status headers body⟩ :: later) s →
    (∀ e ∈ later, Quiet e) → body ≠ .late → (QuotaReport.ofHeaders headers).remaining = some n →
    ∃ cr ∈ s.2, cr.quota.remaining = n := by
  intro hall
  have hreplied : Replied scripted.answer ([moved], [⟨"tok", ⟨5, .epoch⟩⟩]) annMoved ([], [⟨"tok", ⟨4, .epoch⟩⟩]) := by
    refine replied_cons.2 ⟨rfl, replied_cons.2 ⟨rfl, replied_cons.2 ⟨rfl, replied_cons.2 ⟨rfl, ?_⟩⟩⟩⟩
    exact replied_nil.2 rfl
  have hquiet : ∀ e ∈ annMoved.drop 2, Quiet e := by
    intro e he
    rcases List.mem_cons.1 he with rfl | he
    · exact ⟨fun r x heq => by cases heq; rfl, nofun⟩
    · rw [List.mem_singleton.1 he]
      exact ⟨nofun, nofun⟩
  obtain ⟨cr, hmem, hremaining⟩ := hall (List Http.Outcome) scripted [moved] .following nearby "ann"
    [⟨"tok", ⟨5, .epoch⟩⟩] [⟨.other (.check 0), Pool.Check.reserved⟩] (annMoved.drop 2) forAnn 302 movedHeaders
    (.whole .empty) 7 _ _ Library.following_documented runs_annMoved hreplied hquiet nofun (by decide +kernel)
  rw [List.mem_singleton.1 hmem] at hremaining
  exact absurd hremaining (by decide)

end AccountStats.GitHub
