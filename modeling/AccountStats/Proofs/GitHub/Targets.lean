import Mathlib.Tactic
import AccountStats.GitHub.Fetch
import AccountStats.Proofs.GitHub.Delivery
import AccountStats.Proofs.GitHub.Leasing
import AccountStats.Proofs.GitHub.Login
import AccountStats.Proofs.Program.Layers
/-
Where the requests go that are made for an account.

A fetch asks GitHub for the account it is about, and leasing asks for the quota of tokens; each of these calls hands one
request to the HTTP library, whose URL is a target behind the base URL. If the response to it is a redirect, the next
request goes wherever that says. Results:
- `fetchAccount_asks`: which calls a fetch makes, and that a text that is no login makes none;
- `deliver_asks`: the requests of one call;
- `overNetwork_asks`: the requests of a fetch.
-/
namespace AccountStats.GitHub

open Http (Library Sending)
open Program (Asks Exchange asks_ask asks_done)

/-! ## Calls of a fetch -/

section Calls

/-- a call that is about this account, if it is about any, or about a page of it -/
def Ask.About (login : String) : Ask → Prop
  | .getUser _ l => l = login
  | .listRepositories _ l page => l = login ∧ 1 ≤ page
  | _ => True

variable {login : String}

theorem request_about {r : Ask} (hr : r.About login) : (ask r).Asks fun _ => Ask.About login := asks_ask hr asks_done

theorem leaseFor_about (tokens : List String) (username : String) :
    (leaseFor tokens username).Asks fun _ => Ask.About login := by
  have hallows : Allows tokens fun _ => Ask.About login :=
    { check := fun _ => trivial
      probe := fun _ _ _ => trivial
      install := fun _ _ _ _ => trivial
      note := fun _ _ => trivial }
  refine Asks.bind_always (hallows.acquire fun h _ => h) fun l? => ?_
  cases l? <;> exact asks_done _

theorem failureOf_about (username : String) (e : CallError) :
    (failureOf username e).Asks fun _ => Ask.About login := by
  cases e with
  | notFound report => exact asks_done _
  | _ => exact asks_ask trivial fun _ => asks_done _

theorem conclude_about {α : Type} (username : String) (l : Lease) (outcome : Except CallError (Response α)) :
    (conclude username l outcome).Asks fun _ => Ask.About login := by
  refine Asks.bind_always ?_ fun _ => ?_
  · cases reportOf? outcome with
    | none => exact asks_done _
    | some report => exact request_about (by trivial)
  · cases outcome with
    | ok r => exact asks_done _
    | error e => exact Asks.bind_always (failureOf_about username e) fun f => asks_done _

theorem fetchUser_about (tokens : List String) : (fetchUser tokens login).Asks fun _ => Ask.About login := by
  refine Asks.bind_except (leaseFor_about tokens login) (fun f => asks_done _) fun l => ?_
  refine Asks.bind_always (request_about rfl) fun outcome => ?_
  exact Asks.bind_except (conclude_about login l outcome) (fun f => asks_done _) fun r => asks_done _

theorem fetchPages_about (tokens : List String) {page : UInt32} (hpage : 1 ≤ page) :
    (fetchPages tokens login page).Asks fun _ => Ask.About login := by
  rw [fetchPages]
  refine Asks.bind_except (leaseFor_about tokens login) (fun f => asks_done _) fun l => ?_
  refine Asks.bind_always (request_about ⟨rfl, hpage⟩) fun outcome => ?_
  refine Asks.bind_except (conclude_about login l outcome) (fun f => asks_done _) fun r => ?_
  dsimp only
  cases r.nextPage with
  | none => exact asks_done _
  | some next =>
    dsimp only
    by_cases hlt : page < next
    · have hnext : 1 ≤ next := UInt32.le_trans hpage (UInt32.le_of_lt hlt)
      rw [if_pos hlt]
      exact Asks.bind_except (fetchPages_about tokens hnext) (fun f => asks_done _) fun rest => asks_done _
    · rw [if_neg hlt]
      exact asks_done _
termination_by 4294967296 - page.toNat
decreasing_by
  have := UInt32.lt_iff_toNat_lt.1 hlt
  have := next.toNat_lt
  omega

theorem fetchAccount_about (tokens : List String) : (fetchAccount tokens login).Asks fun _ => Ask.About login := by
  rw [fetchAccount]
  split
  · refine Asks.bind_except (fetchUser_about tokens) (fun f => asks_done _) fun user => ?_
    refine Asks.bind_except (fetchPages_about tokens (by decide)) (fun f => asks_done _) fun repositories => ?_
    exact Asks.bind_always (request_about (by trivial)) fun now => asks_done _
  · exact asks_done _

/-- **A fetch asks for the account that it is about, and only if that may be a login.** -/
theorem fetchAccount_asks (tokens : List String) :
    (fetchAccount tokens login).Asks fun _ r => isLogin login = true ∧ r.About login := by
  by_cases hlogin : isLogin login = true
  · exact (fetchAccount_about tokens).imp fun _ _ h => ⟨hlogin, h⟩
  · rw [fetchAccount, if_neg hlogin]
    exact asks_done _

end Calls

/-! ## Requests of a call -/

/-- the request over HTTP that is made, if it is one -/
def Wired.sent? : Wired → Option Http.Get
  | .get r | .probe r => some r
  | .other _ => none

/-- the place that the response in an exchange redirects to -/
def redirectedTo? (lib : Library) : Exchange WiredCalls → Option String
  | ⟨.get r, x⟩ | ⟨.probe r, some x⟩ => Http.place? lib.resolve ⟨r, x⟩
  | _ => none

/-- a request over HTTP goes to one of these targets, relative to the base URL, or to the place that the response to the
one just before it redirects to -/
def Addressed (lib : Library) (c : Client) (targets : String → Prop) (es : List (Exchange WiredCalls)) (w : Wired) :
    Prop :=
  ∀ r, w.sent? = some r →
    (∃ target, targets target ∧ r.url = c.base ++ target) ∨ es.getLast?.bind (redirectedTo? lib) = some r.url

variable {lib : Library} {c : Client} {targets : String → Prop} {es : List (Exchange WiredCalls)} {w : Wired}

theorem Addressed.append (h : Addressed lib c targets es w) (before : List (Exchange WiredCalls)) :
    Addressed lib c targets (before ++ es) w := by
  refine fun r hr => (h r hr).imp_right fun hredirected => ?_
  obtain ⟨e, hlast, he⟩ := Option.bind_eq_some_iff.1 hredirected
  rw [List.getLast?_append, hlast]
  exact he

/-- what may be sent for a request of this URL goes there, or where it is redirected -/
theorem addressed_of_next {first r : Http.Get} {fs : List (Exchange Sending)} {target : String}
    {as : Exchange Sending → Exchange WiredCalls} (has : ∀ e, redirectedTo? lib (as e) = Http.place? lib.resolve e)
    (h : lib.Next first fs r) (hw : w.sent? = some r) (htarget : targets target) (hfirst : first.url = c.base ++ target) :
    Addressed lib c targets (fs.map as) w := by
  intro r' hr'
  obtain rfl : r = r' := Option.some.inj (hw.symm.trans hr')
  rcases h with ⟨-, rfl⟩ | hplace
  · exact Or.inl ⟨target, htarget, hfirst⟩
  · obtain ⟨e, hlast, he⟩ := Option.bind_eq_some_iff.1 hplace
    refine Or.inr ?_
    rw [List.getLast?_map, hlast]
    exact (has e).trans he

/-! ## A fetch over the network -/

theorem url_of_request? {token target : String} {r : Http.Get} (h : c.request? token target = some r) :
    r.url = c.base ++ target := by
  unfold Client.request? at h
  dsimp only at h
  split at h
  · cases h
    rfl
  · cases h

theorem call_asks {α : Type} (hlib : lib.Documented) (token : String) (body? : Json → Option α) {target : String}
    (htarget : targets target) : ((c.call token target body?).through (carry lib)).Asks (Addressed lib c targets) := by
  unfold Client.call
  split
  · exact asks_done _
  · next first hfirst =>
    refine Asks.bind (p := gets (lib.send first)) ?_ fun es outcome _ => asks_done _
    refine (gets_asks (hlib.sends first)).imp ?_
    rintro _ _ ⟨fs, r, rfl, rfl, hnext⟩
    exact addressed_of_next (fun _ => rfl) hnext rfl htarget (url_of_request? hfirst)

theorem probe_asks (hlib : lib.Documented) (token : String) (htarget : targets Client.rateLimitTarget) :
    ((c.probe token).through (carry lib)).Asks fun es w => Addressed lib c targets es w ∧ ∃ r, w = .probe r := by
  unfold Client.probe
  split
  · exact asks_done _
  · next first hfirst =>
    refine Asks.bind (p := probing (lib.send first)) ?_ fun es outcome? _ => ?_
    · refine (probing_asks (hlib.sends first)).imp ?_
      rintro _ _ ⟨fs, r, rfl, rfl, hnext⟩
      exact ⟨addressed_of_next (fun _ => rfl) hnext rfl htarget (url_of_request? hfirst), r, rfl⟩
    · cases outcome? <;> exact asks_done _

/-- where a call goes that is made for an account, relative to the base URL -/
inductive Target (login : String) : String → Prop
  | rateLimit : Target login "/rate_limit"
  | user : Target login ("/users/" ++ login)
  | listing {page : Nat} : 1 ≤ page →
    Target login ("/users/" ++ login ++ "/repos?type=owner&sort=updated&per_page=100&page=" ++ toString page)

theorem target_listing {login : String} {page : UInt32} (h : 1 ≤ page) :
    Target login (Client.listingTarget login page) := by
  have hquery : "/repos?type=owner&sort=updated&per_page=" ++ toString pageSize ++ "&page=" =
      "/repos?type=owner&sort=updated&per_page=100&page=" := by decide
  have htarget : Client.listingTarget login page =
      "/users/" ++ login ++ "/repos?type=owner&sort=updated&per_page=100&page=" ++ toString page.toNat := by
    rw [← hquery]
    simp only [Client.listingTarget, String.append_assoc]
  rw [htarget]
  exact .listing (UInt32.le_iff_toNat_le.1 h)

/-- **The requests of a call go to its target**, or where they are redirected. -/
theorem deliver_asks {login : String} (hlib : lib.Documented) {r : Ask} (hr : r.About login) :
    (c.deliver lib r).Asks (Addressed lib c (Target login)) := by
  cases r with
  | probe token => exact (probe_asks hlib token .rateLimit).imp fun _ _ h => h.1
  | getUser token l =>
    obtain rfl : l = login := hr
    exact call_asks hlib token _ .user
  | listRepositories token l page =>
    obtain ⟨rfl, hpage⟩ : l = login ∧ 1 ≤ page := hr
    exact call_asks hlib token _ (target_listing hpage)
  | _ => exact asks_ask nofun fun x => asks_done x

/-- what may be asked for on behalf of an account, given the exchanges before: nothing if its name is none, neither a
request over HTTP nor a step on the pool -/
def OnBehalf (lib : Library) (c : Client) (login : String) (es : List (Exchange WiredCalls)) (w : Wired) : Prop :=
  Login.Spelled login.toList ∧ login.length ≤ 39 ∧ Addressed lib c (Target login) es w

theorem OnBehalf.append {login : String} (h : OnBehalf lib c login es w) (before : List (Exchange WiredCalls)) :
    OnBehalf lib c login (before ++ es) w := ⟨h.1, h.2.1, h.2.2.append before⟩

/-- **A fetch sends its requests to the targets of its account**, or where they are redirected; for a text that is no
login there are none. -/
theorem overNetwork_asks (hlib : lib.Documented) (c : Client) (tokens : List String) (login : String) :
    (c.overNetwork lib (fetchAccount tokens login)).Asks (OnBehalf lib c login) := by
  refine Asks.through OnBehalf.append (fetchAccount_asks tokens) fun r hr => ?_
  exact (deliver_asks hlib hr.2).imp fun es w h => ⟨spelled_of_isLogin hr.1, length_of_isLogin hr.1, h⟩

/-! ## Filling the pool over the network -/

/-- where the quota of a token is asked for, relative to the base URL -/
def ForQuota (target : String) : Prop := target = "/rate_limit"

/-- what may be asked for when the pool is filled, given the exchanges before: the quotas of tokens only -/
def AtStart (lib : Library) (c : Client) (es : List (Exchange WiredCalls)) : Wired → Prop
  | .probe r => Addressed lib c ForQuota es (.probe r)
  | .other (.note _) => True
  | _ => False

theorem AtStart.append (h : AtStart lib c es w) (before : List (Exchange WiredCalls)) :
    AtStart lib c (before ++ es) w := by
  cases w with
  | get r => cases h
  | probe r => exact Addressed.append h before
  | other r =>
    cases r with
    | note n => trivial
    | _ => cases h

/-- a call that asks for the quota of a token, or a note -/
def Ask.Filling : Ask → Prop
  | .probe _ | .note _ => True
  | _ => False

theorem probeAll_asks (tokens : List String) : (probeAll tokens).Asks fun _ => Ask.Filling := by
  induction tokens with
  | nil => exact asks_done _
  | cons token rest ih =>
    refine asks_ask trivial fun x => ?_
    cases x with
    | ok q =>
      have hnote : (noteLoaded token q).Asks fun _ => Ask.Filling := asks_ask trivial fun x => asks_done x
      exact hnote.bind_always fun _ => ih.bind_always fun pool => asks_done _
    | error e => cases e <;> exact asks_ask trivial fun _ => ih

theorem connectPool_asks (tokens : List String) : (connectPool tokens).Asks fun _ => Ask.Filling := by
  refine Asks.bind_always (probeAll_asks _) fun pool => ?_
  dsimp only
  split
  · exact asks_ask trivial fun _ => asks_done _
  · exact asks_done _

/-- **Filling the pool asks for the quotas of tokens**, or goes where it is redirected. -/
theorem connectPool_overNetwork_asks (hlib : lib.Documented) (c : Client) (tokens : List String) :
    (c.overNetwork lib (connectPool tokens)).Asks (AtStart lib c) := by
  refine Asks.through AtStart.append (connectPool_asks tokens) fun r hr => ?_
  cases r with
  | probe token =>
    have hquota : ForQuota Client.rateLimitTarget := rfl
    refine (probe_asks hlib token hquota).imp fun es w h => ?_
    obtain ⟨haddressed, r, rfl⟩ := h
    exact haddressed
  | note n => exact asks_ask trivial fun x => asks_done x
  | _ => cases hr

end AccountStats.GitHub
