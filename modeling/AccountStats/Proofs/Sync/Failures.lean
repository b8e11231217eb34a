import Mathlib.Tactic
import AccountStats.GitHub.Fetch
import AccountStats.Banner.Publish
import AccountStats.Proofs.Program.Layers
import AccountStats.Proofs.Sync.Requests
/-
How a look-up fails.

The service is run on top of the fetcher; whatever else it asks for may fail in any way. Results:
- `fetchAccount_fails`: an account that cannot be fetched is unknown, or there is no quota, or GitHub does not reply;
- `getEntry_error`: the exchanges of a look-up that fails: nothing to serve in the cache, no snapshot in the store, and
  the failed fetch, whose failure is the result;
- `getEntry_ended`: the same on top of the fetcher;
- `publish_fails`: how publishing a banner fails.
-/
namespace AccountStats

open Program (Ensures Exchange Runs runs_ask runs_done ensures_ask ensures_done ensures_any)

variable {I : Interface} {α β : Type} {username : String} {f : Failure}

/-- the failure, if there is one, is as described -/
def FailsAs (failure : Failure → Prop) (result : Except Failure α) : Prop := ∀ f, result = .error f → failure f

theorem failsAs_ok (failure : Failure → Prop) (a : α) : FailsAs failure (.ok a) := nofun

theorem failsAs_error {failure : Failure → Prop} (h : failure f) : FailsAs failure (.error f : Except Failure α) := by
  rintro g ⟨⟩
  exact h

/-- of what passes a failure on, only the rest can fail in another way -/
theorem ensures_try {replies : Exchange I → Prop} {failure : Failure → Prop} {p : Program I (Except Failure α)}
    {next : Except Failure α → Program I (Except Failure β)} (hp : Ensures replies (FailsAs failure) p)
    (hpass : ∀ f, next (.error f) = .done (.error f))
    (hnext : ∀ a, Ensures replies (FailsAs failure) (next (.ok a))) :
    Ensures replies (FailsAs failure) (p >>= next) := by
  refine hp.bind fun result hresult => ?_
  cases result with
  | error f =>
    rw [hpass]
    exact ensures_done (failsAs_error (hresult f rfl))
  | ok a => exact hnext a

/-! ## Fetching -/

namespace GitHub

/-- the failures that the fetch of an account ends with -/
inductive FetchFailure (username : String) : Failure → Prop where
  | unknown : FetchFailure username (.accountNotFound username)
  | noQuota : FetchFailure username (.noQuotaLeft username)
  | unavailable (reason : String) : FetchFailure username (.gitHubUnavailable username reason)

theorem FetchFailure.kind (h : FetchFailure username f) : f.kind = .notFound ∨ f.kind = .unavailable := by
  cases h with
  | unknown => exact Or.inl rfl
  | noQuota => exact Or.inr rfl
  | unavailable => exact Or.inr rfl

variable {replies : Exchange Calls → Prop} (tokens : List String) (username : String)

theorem leaseFor_fails : Ensures replies (FailsAs (FetchFailure username)) (leaseFor tokens username) := by
  refine (ensures_any (acquire tokens)).bind fun lease? _ => ?_
  cases lease? with
  | some l => exact ensures_done (failsAs_ok _ l)
  | none => exact ensures_done (failsAs_error .noQuota)

theorem failureOf_is (e : CallError) : Ensures replies (FetchFailure username) (failureOf username e) := by
  cases e with
  | notFound => exact ensures_done .unknown
  | _ => exact ensures_ask fun _ _ => ensures_done (.unavailable _)

theorem conclude_fails (l : Lease) (outcome : Except CallError (Response α)) :
    Ensures replies (FailsAs (FetchFailure username)) (conclude username l outcome) := by
  refine (ensures_any (settle l (reportOf? outcome))).bind fun _ _ => ?_
  cases outcome with
  | ok r => exact ensures_done (failsAs_ok _ r)
  | error e => exact (failureOf_is username e).bind fun f hf => ensures_done (failsAs_error hf)

theorem fetchUser_fails : Ensures replies (FailsAs (FetchFailure username)) (fetchUser tokens username) := by
  refine ensures_try (leaseFor_fails tokens username) (fun _ => rfl) fun l => ?_
  refine (ensures_any (ask (.getUser l.token username))).bind fun outcome _ => ?_
  refine ensures_try (conclude_fails username l outcome) (fun _ => rfl) fun r => ?_
  exact ensures_done (failsAs_ok _ _)

theorem fetchPages_fails (page : UInt32) :
    Ensures replies (FailsAs (FetchFailure username)) (fetchPages tokens username page) := by
  rw [fetchPages]
  refine ensures_try (leaseFor_fails tokens username) (fun _ => rfl) fun l => ?_
  refine (ensures_any (ask (.listRepositories l.token username page))).bind fun outcome _ => ?_
  refine ensures_try (conclude_fails username l outcome) (fun _ => rfl) fun r => ?_
  dsimp only
  cases r.nextPage with
  | none => exact ensures_done (failsAs_ok _ _)
  | some next =>
    dsimp only
    by_cases hlt : page < next
    · rw [if_pos hlt]
      refine ensures_try (fetchPages_fails next) (fun _ => rfl) fun rest => ?_
      exact ensures_done (failsAs_ok _ _)
    · rw [if_neg hlt]
      exact ensures_done (failsAs_ok _ _)
termination_by 4294967296 - page.toNat
decreasing_by
  have := UInt32.lt_iff_toNat_lt.1 hlt
  have := next.toNat_lt
  omega

/-- **A fetch that fails** has found that there is no such account, or no quota left, or no GitHub. -/
theorem fetchAccount_fails : Ensures replies (FailsAs (FetchFailure username)) (fetchAccount tokens username) := by
  rw [fetchAccount]
  split
  · refine ensures_try (fetchUser_fails tokens username) (fun _ => rfl) fun user => ?_
    refine ensures_try (fetchPages_fails tokens username 1) (fun _ => rfl) fun repositories => ?_
    exact (ensures_any (ask .now)).bind fun now _ => ensures_done (failsAs_ok _ _)
  · exact ensures_done (failsAs_error .unknown)

end GitHub

/-! ## Looking up -/

namespace Sync

variable {policy : FreshnessPolicy} {ttl : Duration} {es : List (Exchange Calls)}

/-- a part that cannot fail -/
def Succeeds (p : Program Calls (Except Failure α)) : Prop := Ensures (fun _ => True) (fun r => ∃ a, r = .ok a) p

theorem Succeeds.not_error {p : Program Calls (Except Failure α)} (h : Succeeds p) : ¬p.Runs es (.error f) := by
  intro hruns
  obtain ⟨a, ha⟩ := h es _ hruns fun _ _ => trivial
  cases ha

theorem succeeds_after {p : Program Calls β} {next : β → Program Calls (Except Failure α)}
    (h : ∀ b, Succeeds (next b)) : Succeeds (p >>= next) := (ensures_any p).bind fun b _ => h b

theorem succeeds_done (a : α) : Succeeds (.done (.ok a)) := ensures_done ⟨a, rfl⟩

/-- a synchronization fails just if its fetch does, and with the failure of the fetch -/
theorem pipeline_error : Runs (pipeline username ttl) es (.error f) ↔ es = [⟨.fetch username, .error f⟩] := by
  constructor
  · intro h
    obtain ⟨x, rest, rfl, hrest⟩ := runs_ask.1 h
    cases x with
    | error g =>
      obtain ⟨rfl, hfg⟩ := runs_done.1 hrest
      cases hfg
      rfl
    | ok snapshot =>
      refine absurd hrest (Succeeds.not_error ?_)
      refine succeeds_after (p := ask (.save snapshot)) fun saved => ?_
      refine succeeds_after (p := noteSave username saved) fun _ => ?_
      refine succeeds_after (p := ask .now) fun now => ?_
      exact succeeds_after (p := storeInCache username _ ttl) fun _ => succeeds_done _
  · rintro rfl
    exact .ask (.done _)

theorem syncNow_error : Runs (syncNow policy username) es (.error f) ↔ es = [⟨.fetch username, .error f⟩] := by
  constructor
  · intro h
    obtain ⟨es₁, es₂, result, rfl, hpipeline, hrest⟩ := Runs.split (p := pipeline username policy.hard) h
    cases result with
    | error g =>
      obtain ⟨rfl, hfg⟩ := runs_done.1 hrest
      cases hfg
      rw [List.append_nil]
      exact pipeline_error.1 hpipeline
    | ok e => exact absurd hrest (succeeds_after (p := note _) fun _ => succeeds_done e).not_error
  · rintro rfl
    exact .ask (.done _)

/-- what is noted of a failed read -/
def readFailureNotes (username : String) (f : Failure) : List (Exchange Calls) :=
  if f.kind = .nothingFound then [⟨.note (.debug "Account not stored yet" [("username", username)]), ()⟩]
  else [⟨.note (.warn "Store read failed, falling back to GitHub" [("username", username), ("error", f.text)]), ()⟩]

theorem runs_noteReadFailure : Runs (noteReadFailure username f) es () ↔ es = readFailureNotes username f := by
  rw [noteReadFailure, readFailureNotes]
  split <;> exact runs_note

/-- a look-up behind the cache: the store has failed, and so has the fetch -/
def failedBehindCache (username : String) (stored fetched : Failure) : List (Exchange Calls) :=
  ⟨.note (.count (lookupCounter "miss") 1), ()⟩ :: ⟨.readStored username, .error stored⟩ ::
    (readFailureNotes username stored ++ [⟨.fetch username, .error fetched⟩])

theorem lookupBehindCache_error :
    Runs (lookupBehindCache policy username) es (.error f) ↔ ∃ stored, es = failedBehindCache username stored f := by
  constructor
  · intro h
    obtain ⟨_, rest, rfl, hread⟩ := runs_ask.1 h
    obtain ⟨x, rest, rfl, hrest⟩ := runs_ask.1 hread
    cases x with
    | error stored =>
      obtain ⟨es₁, es₂, _, rfl, hnotes, hsync⟩ := Runs.split (p := noteReadFailure username stored) hrest
      rw [runs_noteReadFailure.1 hnotes, syncNow_error.1 hsync]
      exact ⟨stored, rfl⟩
    | ok snapshot =>
      refine absurd hrest (Succeeds.not_error ?_)
      refine succeeds_after (p := ask .now) fun now => ?_
      exact succeeds_after (p := storeInCache username _ policy.hard) fun _ => succeeds_done _
  · rintro ⟨stored, rfl⟩
    exact .ask (.ask ((runs_noteReadFailure.2 rfl).append (syncNow_error.2 rfl)))

/-- the cache has nothing, or it fails, or the age of what it has is past serving -/
inductive Missed (policy : FreshnessPolicy) (username : String) : List (Exchange Calls) → Prop where
  | nothing : Missed policy username [⟨.cacheGet username, .ok none⟩]
  | failed (err : Cache.CacheError) : Missed policy username
      [⟨.cacheGet username, .error err⟩,
        ⟨.note (.warn "Stats cache read failed" [("username", username), ("error", err.text)]), ()⟩]
  | expired (e : Entry) (now : Time.Instant) (h : policy.classify e.updatedAt now = .expired) :
      Missed policy username
        [⟨.cacheGet username, .ok (some e)⟩, ⟨.now, now⟩,
          ⟨.note (.debug "Cached stats past hard TTL" [("username", username)]), ()⟩]

/-- **A look-up fails just if the cache has nothing to serve, the store has no snapshot and the fetch fails**; its
failure is that of the fetch. -/
theorem getEntry_error : Runs (getEntry policy username) es (.error f) ↔
    ∃ missed stored, Missed policy username missed ∧ es = missed ++ failedBehindCache username stored f := by
  rw [getEntry_eq]
  constructor
  · intro h
    obtain ⟨x, rest, rfl, hrest⟩ := runs_ask.1 h
    cases x with
    | error err =>
      obtain ⟨_, rest, rfl, hbehind⟩ := runs_ask.1 hrest
      obtain ⟨stored, rfl⟩ := lookupBehindCache_error.1 hbehind
      exact ⟨_, stored, .failed err, rfl⟩
    | ok entry? =>
      cases entry? with
      | none =>
        obtain ⟨stored, rfl⟩ := lookupBehindCache_error.1 hrest
        exact ⟨_, stored, .nothing, rfl⟩
      | some e =>
        obtain ⟨now, rest, rfl, hage⟩ := runs_ask.1 hrest
        cases hclass : policy.classify e.updatedAt now with
        | fresh =>
          rw [hclass] at hage
          exact absurd hage (succeeds_after (p := noteLookup _) fun _ => succeeds_done e).not_error
        | stale =>
          rw [hclass] at hage
          refine absurd hage (Succeeds.not_error ?_)
          refine succeeds_after (p := noteLookup _) fun _ => ?_
          exact succeeds_after (p := refreshBehind username) fun _ => succeeds_done e
        | expired =>
          rw [hclass] at hage
          obtain ⟨_, rest, rfl, hbehind⟩ := runs_ask.1 hage
          obtain ⟨stored, rfl⟩ := lookupBehindCache_error.1 hbehind
          exact ⟨_, stored, .expired e now hclass, rfl⟩
  · rintro ⟨missed, stored, hmissed, rfl⟩
    have hbehind : Runs (lookupBehindCache policy username) (failedBehindCache username stored f) (.error f) :=
      lookupBehindCache_error.2 ⟨stored, rfl⟩
    cases hmissed with
    | nothing => exact .ask hbehind
    | failed err => exact .ask (.ask hbehind)
    | expired e now hclass =>
      refine .ask (.ask ?_)
      rw [hclass]
      exact .ask hbehind

/-! ## On top of the fetcher -/

/-- fetching is up to the fetcher -/
def fetching (tokens : List String) : (r : Calls.Request) → Option (Program GitHub.Calls (Calls.Reply r))
  | .fetch username => some (GitHub.fetchAccount tokens username)
  | _ => none

/-- fetches fail as those of the fetcher do, and all else as it may -/
def FetchesFail : Exchange Calls → Prop
  | ⟨.fetch username, x⟩ => FailsAs (GitHub.FetchFailure username) x
  | _ => True

theorem fetches_fail (tokens : List String) (r : Calls.Request) (p : Program GitHub.Calls (Calls.Reply r))
    (h : fetching tokens r = some p) : Ensures (fun _ => True) (fun x => FetchesFail ⟨r, x⟩) p := by
  cases r with
  | fetch username =>
    cases h
    exact GitHub.fetchAccount_fails tokens username
  | _ => cases h

theorem others_may_fail (tokens : List String) (r : Calls.Request) (h : fetching tokens r = none)
    (x : Calls.Reply r) : FetchesFail ⟨r, x⟩ := by
  cases r with
  | fetch username => cases h
  | _ => trivial

/-- a failure that a client may see -/
def Tellable (f : Failure) : Prop := f.kind = .notFound ∨ f.kind = .unavailable

theorem getEntry_fails (policy : FreshnessPolicy) (username : String) :
    Ensures FetchesFail (FailsAs Tellable) (getEntry policy username) := by
  rintro es result hruns hes f rfl
  obtain ⟨missed, stored, -, rfl⟩ := getEntry_error.1 hruns
  have hfetch : (⟨.fetch username, .error f⟩ : Exchange Calls) ∈ missed ++ failedBehindCache username stored f := by
    simp [failedBehindCache]
  exact GitHub.FetchFailure.kind (hes _ hfetch f rfl)

theorem publish_fails (policy : FreshnessPolicy) (username : String) (layout : Banner.Layout) (path : String) :
    Ensures FetchesFail (FailsAs Tellable) (Banner.publish policy username layout path) := by
  refine ensures_try (getEntry_fails policy username) (fun _ => rfl) fun e => ?_
  refine (ensures_any (ask .now)).bind fun now _ => ?_
  refine (ensures_any (ask (.publish _))).bind fun delivered _ => ?_
  cases delivered with
  | error err => exact (ensures_any (note _)).bind fun _ _ => ensures_done (failsAs_error (Or.inr rfl))
  | ok _ => exact (ensures_any (note _)).bind fun _ _ => ensures_done (failsAs_ok _ _)

/-- how a look-up on top of the fetcher ends, after these exchanges of its own (`es`) and those outside (`fs`), of
which the ones of the fetch are the last -/
inductive Ended (tokens : List String) (policy : FreshnessPolicy) (username : String) (es : List (Exchange Calls))
    (fs : List (Exchange (Calls.beside GitHub.Calls))) : Except Failure Entry → Prop where
  | served (e : Entry) : Ended tokens policy username es fs (.ok e)
  | failed {missed : List (Exchange Calls)} {stored f : Failure} {before : List (Exchange (Calls.beside GitHub.Calls))}
      {fetched : List (Exchange GitHub.Calls)} :
      Missed policy username missed → es = missed ++ failedBehindCache username stored f →
      (GitHub.fetchAccount tokens username).Runs fetched (.error f) →
      fs = before ++ fetched.map (fun e => ⟨.inr e.request, e.reply⟩) → f.kind = .notFound ∨ f.kind = .unavailable →
      Ended tokens policy username es fs (.error f)

theorem getEntry_ended {tokens : List String} {fs : List (Exchange (Calls.beside GitHub.Calls))}
    {result : Except Failure Entry} (hruns : Runs (getEntry policy username) es result)
    (hanswered : Program.Answered (Program.layered (fetching tokens)) es fs) :
    Ended tokens policy username es fs result := by
  cases result with
  | ok e => exact .served e
  | error f =>
    obtain ⟨missed, stored, hmissed, hes⟩ := getEntry_error.1 hruns
    have hlast : es = (missed ++ ⟨.note (.count (lookupCounter "miss") 1), ()⟩ :: ⟨.readStored username, .error stored⟩ ::
        readFailureNotes username stored) ++ [⟨.fetch username, .error f⟩] := by
      rw [hes, failedBehindCache, List.append_assoc]
      rfl
    rw [hlast] at hanswered
    obtain ⟨before, last, rfl, -, hfetch⟩ := Program.answered_append.1 hanswered
    obtain ⟨fetched, hfetched, rfl⟩ := Program.runs_through_inr.1 (Program.answered_singleton.1 hfetch)
    have hkind := (GitHub.fetchAccount_fails tokens username fetched _ hfetched (fun _ _ => trivial) f rfl).kind
    exact .failed hmissed hes hfetched rfl hkind

end Sync

end AccountStats
