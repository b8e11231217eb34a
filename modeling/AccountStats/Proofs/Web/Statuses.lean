import Mathlib.Tactic
import AccountStats.Web.Banners
import AccountStats.Web.Stats
import AccountStats.Proofs.Sync.Failures
/-
Which failures reach a client, and with which statuses.

The handlers are run on top of the fetcher, as the service is. Results:
- `respond_tellable`: the statuses of the failures that a look-up ends with;
- `statsHandler_status`, `publishBanner_status`: those of the responses;
- `failures_stay_inside`: no other failure reaches a client, whatever the surroundings reply.
-/
namespace AccountStats

open Program (Ensures Exchange Runs ensures_any ensures_ask ensures_done)

variable {α : Type} {f : Failure}

namespace Web

/-- fetching is up to the fetcher -/
def fetching (tokens : List String) : (r : Calls.Request) → Option (Program GitHub.Calls (Calls.Reply r))
  | .sync r => Sync.fetching tokens r
  | _ => none

def FetchesFail : Exchange Calls → Prop
  | ⟨.sync r, x⟩ => Sync.FetchesFail ⟨r, x⟩
  | _ => True

theorem layered_fetching (tokens : List String) (r : Calls.Request) :
    Ensures (fun _ => True) (fun x => FetchesFail ⟨r, x⟩) (Program.layered (fetching tokens) r) := by
  refine Program.ensures_layered ?_ ?_ r
  · intro r p h
    cases r with
    | sync r => exact Sync.fetches_fail tokens r p h
    | _ => cases h
  · intro r h x
    cases r with
    | sync r => exact Sync.others_may_fail tokens r h x
    | _ => trivial

theorem sync_ensures {result : α → Prop} {p : Program Sync.Calls α} (hp : Ensures Sync.FetchesFail result p) :
    Ensures FetchesFail result (sync p) :=
  hp.through fun _ => ensures_ask fun _ hx => ensures_done hx

theorem respond_status {replies : Exchange Calls → Prop} (f : Failure) :
    Ensures replies (fun r => r.status = f.kind.status) (respond f) := by
  rw [respond]
  split
  · exact (ensures_any (note _)).bind fun _ _ => ensures_done rfl
  · exact ensures_done rfl

theorem respond_tellable {replies : Exchange Calls → Prop} {f : Failure} (h : Sync.Tellable f) :
    Ensures replies (fun r => r.status ∈ [404, 503]) (respond f) := by
  refine (respond_status f).imp fun r hstatus => ?_
  rw [hstatus]
  rcases h with hkind | hkind
  · rw [hkind]
    decide
  · rw [hkind]
    decide

theorem statsHandler_status (policy : FreshnessPolicy) (username : String) :
    Ensures FetchesFail (fun r => r.status ∈ [200, 404, 503]) (statsHandler policy username) := by
  rw [statsHandler]
  split
  · refine (sync_ensures (Sync.getEntry_fails policy username)).bind fun result hresult => ?_
    cases result with
    | ok e => exact ensures_done List.mem_cons_self
    | error f => exact (respond_tellable (hresult f rfl)).imp fun r hstatus => List.mem_cons_of_mem 200 hstatus
  · exact (respond_tellable (Or.inl rfl)).imp fun r hstatus => List.mem_cons_of_mem 200 hstatus

/-- a request that is refused is malformed -/
theorem checkOrder_error {request : Banner.Request} (h : checkOrder request = .error f) : f.kind = .badRequest := by
  rw [checkOrder] at h
  split at h
  · split at h
    · cases h
      rfl
    · dsimp only at h
      split at h
      · cases h
        rfl
      · cases h
  · cases h
    rfl

theorem publishBanner_status (policy : FreshnessPolicy) (request : Banner.Request) :
    Ensures FetchesFail (fun r => r.status ∈ [202, 400, 404, 503]) (publishBanner policy request) := by
  unfold publishBanner
  cases horder : checkOrder request with
  | error f =>
    refine (respond_status f).imp fun r hstatus => ?_
    rw [hstatus, checkOrder_error horder]
    decide
  | ok order =>
    have hpublish := sync_ensures (Sync.publish_fails policy order.username order.layout order.storagePath)
    refine hpublish.bind fun result hresult => ?_
    cases result with
    | ok event => exact ensures_done List.mem_cons_self
    | error f =>
      refine (respond_tellable (hresult f rfl)).imp fun r hstatus => ?_
      exact List.mem_cons_of_mem 202 (List.mem_cons_of_mem 400 hstatus)

/-- what a program ensures, it comes to when it is run on top of the fetcher in any surroundings -/
theorem run_ensures {σ : Type} {result : α → Prop} {p : Program Calls α} (hp : Ensures FetchesFail result p)
    (tokens : List String)
    (answer : (r : (Calls.beside GitHub.Calls).Request) → σ → (Calls.beside GitHub.Calls).Reply r × σ) (s : σ) :
    result (((p.through (Program.layered (fetching tokens))).run answer s).1) := by
  obtain ⟨es, hruns, -⟩ := Program.exists_runs answer (p.through (Program.layered (fetching tokens))) s
  exact hp.through (layered_fetching tokens) es _ hruns fun _ _ => trivial

end Web

/-- **Failures of the store, the cache and the publisher do not reach a client.** Whatever the store, the cache, the
publisher, the pool and GitHub reply: a look-up has a result, and if it is a failure, it is that of its fetch, after the
cache had nothing to serve and the store had failed; the responses have the statuses of such failures, of a request that
is malformed, or of success. -/
theorem failures_stay_inside (tokens : List String) (policy : FreshnessPolicy) {σ : Type} :
    (∀ (username : String)
        (answer : (r : (Sync.Calls.beside GitHub.Calls).Request) → σ → (Sync.Calls.beside GitHub.Calls).Reply r × σ)
        (s : σ), ∃ es fs,
      let outcome := ((Sync.getEntry policy username).through (Program.layered (Sync.fetching tokens))).run answer s
      Runs (Sync.getEntry policy username) es outcome.1 ∧
      Program.Answered (Program.layered (Sync.fetching tokens)) es fs ∧
      Program.Replied answer s fs outcome.2 ∧
      Sync.Ended tokens policy username es fs outcome.1) ∧
    ∀ (answer : (r : (Web.Calls.beside GitHub.Calls).Request) → σ → (Web.Calls.beside GitHub.Calls).Reply r × σ)
      (s : σ),
      (∀ username,
        (((Web.statsHandler policy username).through (Program.layered (Web.fetching tokens))).run answer s).1.status ∈
          [200, 404, 503]) ∧
      (∀ request,
        (((Web.publishBanner policy request).through (Program.layered (Web.fetching tokens))).run answer s).1.status ∈
          [202, 400, 404, 503]) := by
  constructor
  · intro username answer s
    obtain ⟨fs, hruns, hreplied⟩ := Program.exists_runs answer
      ((Sync.getEntry policy username).through (Program.layered (Sync.fetching tokens))) s
    obtain ⟨es, hruns, hanswered⟩ := Program.runs_through.1 hruns
    exact ⟨es, fs, hruns, hanswered, hreplied, Sync.getEntry_ended hruns hanswered⟩
  · intro answer s
    exact ⟨fun username => Web.run_ensures (Web.statsHandler_status policy username) tokens answer s,
      fun request => Web.run_ensures (Web.publishBanner_status policy request) tokens answer s⟩

end AccountStats
