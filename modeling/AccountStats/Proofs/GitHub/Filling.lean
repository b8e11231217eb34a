import Mathlib.Tactic
import AccountStats.Scenario.Pool
import AccountStats.Proofs.GitHub.Tokens
import AccountStats.Proofs.Program.Running
/-
Filling the pool from a list of access tokens.

The quota of each token of the list is asked for once, one after the other. A reply with a quota makes a credential of
the pool, and all other replies are warned of, those that take too long included. Results:
- `runs_probeAll`, `runs_connectPool`: the exchanges with which a pool is filled are told by the replies;
- `filled_filling`: what they come to;
- `run_probeAll`: against scripted replies, which take their time;
- `pool_of_list`: from the text of a list to the pool.
-/
namespace AccountStats.GitHub

open Program (Exchange Replied Runs exists_runs runs_ask runs_done)
open Scenario (GitHubWorld PoolRun Scripted)
open Text (tight_of_ends)

variable {tokens : List String} {es : List (Exchange Calls)} {pool : Pool}

/-! ## Probes -/

/-- a token, and what was replied when its quota was asked for -/
structure Probe where
  token : String
  reply : Except ProbeError Quota

/-- the warning that a token is left out -/
def skipWarning (token : String) : ProbeError → LogEvent
  | .failed e => ⟨.warn, "Skipping GitHub credential", [("credential", maskToken token), ("error", e.text)]⟩
  | .timedOut => ⟨.warn, "Skipping GitHub credential: probe timed out", [("credential", maskToken token)]⟩

/-- the warning that there is no credential at all -/
def emptyWarning : LogEvent := ⟨.warn, "No usable GitHub credentials; every fetch will fail until restart", []⟩

namespace Probe

/-- the credential that a quota makes: with that quota, of which nothing is reserved -/
def credential? (p : Probe) : Option Credential :=
  match p.reply with
  | .ok q => some ⟨p.token, q⟩
  | .error _ => none

/-- what is warned of -/
def skip? (p : Probe) : Option LogEvent :=
  match p.reply with
  | .ok _ => none
  | .error e => some (skipWarning p.token e)

def noted (p : Probe) : LogEvent :=
  match p.reply with
  | .ok q => ⟨.info, "GitHub credential loaded", [
      ("credential", maskToken p.token), ("remaining", toString q.remaining),
      ("reset_at", Time.Rfc3339.renderSpaced q.resetAt)]⟩
  | .error e => skipWarning p.token e

def exchanges (p : Probe) : List (Exchange Calls) := [⟨.probe p.token, p.reply⟩, ⟨.note (.log p.noted), ()⟩]

/-- either a credential is made or a warning -/
theorem skip?_isSome (p : Probe) : p.skip?.isSome = !p.credential?.isSome := by
  unfold skip? credential?
  cases p.reply <;> rfl

end Probe

/-- the end: a pool without credentials is warned of -/
def closing (pool : Pool) : List LogEvent := if pool = [] then [emptyWarning] else []

/-- all exchanges, as told by the replies -/
def filling (probes : List Probe) : List (Exchange Calls) :=
  probes.flatMap Probe.exchanges ++
    (closing (probes.filterMap Probe.credential?)).map fun e => ⟨.note (.log e), ()⟩

/-! ## One token after the other -/

/-- the pool with the credential that a quota makes, if there is one -/
def Probe.addTo (p : Probe) (pool : Pool) : Pool := p.credential?.toList ++ pool

theorem credentials_cons (p : Probe) (probes : List Probe) :
    (p :: probes).filterMap Probe.credential? = p.addTo (probes.filterMap Probe.credential?) := by
  rw [List.filterMap_cons, Probe.addTo]
  cases p.credential? <;> rfl

/-- one token: it is asked about, the reply is noted, and the others follow -/
theorem probeAll_cons (token : String) (rest : List String) : probeAll (token :: rest) =
    Program.ask (I := Calls) (.probe token) fun x =>
      Program.ask (I := Calls) (.note (.log (Probe.noted ⟨token, x⟩))) fun _ =>
        (probeAll rest).bind fun pool => .done (Probe.addTo ⟨token, x⟩ pool) := by
  refine congrArg (Program.ask (I := Calls) (.probe token)) (funext fun x => ?_)
  cases x with
  | ok q => rfl
  | error e =>
    have hrest : (probeAll rest).bind (fun pool => .done (Probe.addTo ⟨token, .error e⟩ pool)) = probeAll rest :=
      Program.bind_done _
    rw [hrest]
    cases e <;> rfl

theorem runs_probeAll : Runs (probeAll tokens) es pool ↔ ∃ probes : List Probe, probes.map Probe.token = tokens ∧
    es = probes.flatMap Probe.exchanges ∧ pool = probes.filterMap Probe.credential? := by
  induction tokens generalizing es pool with
  | nil =>
    constructor
    · intro h
      obtain ⟨rfl, rfl⟩ := runs_done.1 h
      exact ⟨[], rfl, rfl, rfl⟩
    · rintro ⟨probes, htokens, rfl, rfl⟩
      obtain rfl := List.map_eq_nil_iff.1 htokens
      exact .done _
  | cons token rest ih =>
    rw [probeAll_cons]
    constructor
    · intro h
      obtain ⟨x, es, rfl, hreplied⟩ := runs_ask.1 h
      obtain ⟨_, es, rfl, hnoted⟩ := runs_ask.1 hreplied
      obtain ⟨es, fs, others, rfl, hrest, hdone⟩ := Runs.split hnoted
      obtain ⟨rfl, rfl⟩ := runs_done.1 hdone
      obtain ⟨probes, rfl, rfl, rfl⟩ := ih.1 hrest
      refine ⟨⟨token, x⟩ :: probes, rfl, ?_, ?_⟩
      · rw [List.append_nil]
        rfl
      · exact (credentials_cons _ probes).symm
    · rintro ⟨probes, htokens, rfl, rfl⟩
      cases probes with
      | nil => cases htokens
      | cons p probes =>
        obtain ⟨rfl, rfl⟩ := List.cons.inj htokens
        have hrest := ih.2 ⟨probes, rfl, rfl, rfl⟩
        have hall := hrest.append (f := fun pool => .done (p.addTo pool)) (.done _)
        rw [List.append_nil] at hall
        rw [credentials_cons]
        exact .ask (.ask hall)

/-- at the end the pool is returned; it is warned of first if it is empty -/
theorem runs_closing {other : Pool} :
    Runs (if pool = [] then note (.log emptyWarning) >>= fun _ => .done pool else (.done pool : Program Calls Pool))
      es other ↔ es = (closing pool).map (fun e => ⟨.note (.log e), ()⟩) ∧ other = pool := by
  rw [closing]
  split
  · constructor
    · intro h
      obtain ⟨_, es, rfl, hdone⟩ := runs_ask.1 h
      obtain ⟨rfl, rfl⟩ := runs_done.1 hdone
      exact ⟨rfl, rfl⟩
    · rintro ⟨rfl, rfl⟩
      exact .ask (.done _)
  · exact runs_done

/-- **The exchanges with which a pool is filled are told by the replies**, which may be any. -/
theorem runs_connectPool : Runs (connectPool tokens) es pool ↔
    ∃ probes : List Probe, probes.map Probe.token = usableTokens tokens ∧ es = filling probes ∧
      pool = probes.filterMap Probe.credential? := by
  constructor
  · intro h
    obtain ⟨es, fs, p, rfl, hprobed, hclosed⟩ := Runs.split (p := probeAll (usableTokens tokens)) h
    obtain ⟨probes, htokens, rfl, rfl⟩ := runs_probeAll.1 hprobed
    obtain ⟨rfl, rfl⟩ := runs_closing.1 hclosed
    exact ⟨probes, htokens, rfl, rfl⟩
  · rintro ⟨probes, htokens, rfl, rfl⟩
    exact (runs_probeAll.2 ⟨probes, htokens, rfl, rfl⟩).append (runs_closing.2 ⟨rfl, rfl⟩)

/-! ## What they come to -/

/-- the requests for quotas among some exchanges, with the replies to them -/
def probesIn (es : List (Exchange Calls)) : List Probe :=
  es.filterMap fun
    | ⟨.probe token, x⟩ => some ⟨token, x⟩
    | _ => none

/-- what is noted in some exchanges -/
def journalIn (es : List (Exchange Calls)) : Journal :=
  es.filterMap fun
    | ⟨.note n, _⟩ => some n
    | _ => none

/-- a pool was filled by asking for the quotas of these tokens -/
structure Filled (tokens : List String) (probes : List Probe) (es : List (Exchange Calls)) (pool : Pool) : Prop where
  exchanges : es = filling probes
  /-- GitHub is asked about each token once, in their order -/
  asked : probes.map Probe.token = tokens
  probed : probesIn es = probes
  /-- and about nothing else, nor is the pool -/
  nothing_else : ∀ e ∈ es, (∃ token, e.request = .probe token) ∨ ∃ n, e.request = .note n
  /-- the pool has the tokens for which there was a quota, in the same order, each with its quota -/
  credentials : pool = probes.filterMap Probe.credential?
  /-- each other token is warned of, once; and so is a pool without credentials, at the end -/
  warned : (journalIn es).events [.warn] = probes.filterMap Probe.skip? ++ closing pool
  complete : pool.length + (probes.filterMap Probe.skip?).length = tokens.length

theorem probesIn_append (es fs : List (Exchange Calls)) : probesIn (es ++ fs) = probesIn es ++ probesIn fs :=
  List.filterMap_append

theorem journalIn_append (es fs : List (Exchange Calls)) : journalIn (es ++ fs) = journalIn es ++ journalIn fs :=
  List.filterMap_append

theorem probesIn_exchanges (probes : List Probe) : probesIn (probes.flatMap Probe.exchanges) = probes := by
  induction probes with
  | nil => rfl
  | cons p probes ih =>
    have hone : probesIn p.exchanges = [p] := rfl
    rw [List.flatMap_cons, probesIn_append, hone, ih, List.singleton_append]

theorem journalIn_exchanges (probes : List Probe) :
    journalIn (probes.flatMap Probe.exchanges) = probes.map fun p => .log p.noted := by
  induction probes with
  | nil => rfl
  | cons p probes ih => exact congrArg (Note.log p.noted :: ·) ih

theorem journalIn_closing (pool : Pool) :
    journalIn ((closing pool).map fun e => ⟨.note (.log e), ()⟩) = (closing pool).map .log := by
  rw [closing]
  split <;> rfl

theorem events_append (levels : List Level) (j k : Journal) :
    Journal.events levels (j ++ k) = j.events levels ++ k.events levels := List.filterMap_append

theorem warnings_noted (probes : List Probe) :
    Journal.events [.warn] (probes.map fun p => .log p.noted) = probes.filterMap Probe.skip? := by
  rw [Journal.events, List.filterMap_map]
  refine List.filterMap_congr fun p _ => ?_
  obtain ⟨token, reply⟩ := p
  cases reply with
  | ok q => rfl
  | error e => cases e <;> rfl

theorem warnings_closing (pool : Pool) : Journal.events [.warn] ((closing pool).map .log) = closing pool := by
  rw [closing]
  split <;> rfl

/-- each token has made a credential or a warning -/
theorem length_credentials (probes : List Probe) :
    (probes.filterMap Probe.credential?).length + (probes.filterMap Probe.skip?).length = probes.length := by
  have hskip : (fun p : Probe => p.skip?.isSome) = fun p => decide ¬ p.credential?.isSome = true := by
    funext p
    rw [p.skip?_isSome]
    cases p.credential?.isSome <;> rfl
  rw [List.length_filterMap_eq_countP, List.length_filterMap_eq_countP, hskip]
  exact (List.length_eq_countP_add_countP _).symm

theorem filled_filling (probes : List Probe) :
    Filled (probes.map Probe.token) probes (filling probes) (probes.filterMap Probe.credential?) where
  exchanges := rfl
  asked := rfl
  probed := by
    have hclosing : ∀ events : List LogEvent, probesIn (events.map fun e => ⟨.note (.log e), ()⟩) = [] := by
      intro events
      simp [probesIn]
    rw [filling, probesIn_append, probesIn_exchanges, hclosing, List.append_nil]
  nothing_else e he := by
    rcases List.mem_append.1 he with he | he
    · obtain ⟨p, -, hp⟩ := List.mem_flatMap.1 he
      rcases List.mem_cons.1 hp with rfl | hp
      · exact .inl ⟨p.token, rfl⟩
      · rw [List.mem_singleton.1 hp]
        exact .inr ⟨_, rfl⟩
    · obtain ⟨event, -, rfl⟩ := List.mem_map.1 he
      exact .inr ⟨_, rfl⟩
  credentials := rfl
  warned := by
    rw [filling, journalIn_append, journalIn_exchanges, journalIn_closing, events_append, warnings_noted,
      warnings_closing]
  complete := by rw [length_credentials, List.length_map]

/-! ## Replies that take their time -/

/-- the probes of some tokens when these are the replies to them, none of which is waited for longer than the limit -/
def arrivals (limit : Nat) (tokens : List String) (script : List (Scripted (Except CallError Quota))) : List Probe :=
  (tokens.zip script).map fun (token, r) => ⟨token, (GitHubWorld.probeReply limit r).1⟩

/-- the world when the quotas of some tokens have been asked for -/
def afterProbes (tokens : List String) (w : GitHubWorld) : GitHubWorld :=
  { w with
    rateLimits := w.rateLimits.drop tokens.length
    calls := w.calls ++ tokens.map .rateLimit
    journal := w.journal ++ (arrivals w.probeTimeout tokens w.rateLimits).map fun p => .log p.noted }

theorem arrivals_cons (limit : Nat) (token : String) (rest : List String) (r : Scripted (Except CallError Quota))
    (script : List (Scripted (Except CallError Quota))) : arrivals limit (token :: rest) (r :: script) =
      ⟨token, (GitHubWorld.probeReply limit r).1⟩ :: arrivals limit rest script := rfl

/-- one token: its reply is taken, and all of it is kept -/
theorem run_probeAll_cons {token : String} {rest : List String} {r : Scripted (Except CallError Quota)}
    {script : List (Scripted (Except CallError Quota))} (w : GitHubWorld) (h : w.rateLimits = r :: script) :
    let p : Probe := ⟨token, (GitHubWorld.probeReply w.probeTimeout r).1⟩
    let w' : GitHubWorld := { w with
      rateLimits := script, calls := w.calls ++ [.rateLimit token], journal := w.journal ++ [.log p.noted] }
    w.runOne (probeAll (token :: rest)) = (p.addTo (w'.runOne (probeAll rest)).1, (w'.runOne (probeAll rest)).2) := by
  obtain ⟨now, limit, _, users, listings, pool, calls, journal⟩ := w
  obtain rfl : _ = r :: script := h
  rw [probeAll_cons]
  exact Program.run_bind ..

theorem run_probeAll (w : GitHubWorld) (h : tokens.length ≤ w.rateLimits.length) : w.runOne (probeAll tokens) =
    ((arrivals w.probeTimeout tokens w.rateLimits).filterMap Probe.credential?, afterProbes tokens w) := by
  induction tokens generalizing w with
  | nil =>
    have hsame : afterProbes [] w = w := by simp [afterProbes, arrivals]
    rw [hsame]
    rfl
  | cons token rest ih =>
    cases hscript : w.rateLimits with
    | nil =>
      rw [hscript] at h
      cases h
    | cons r script =>
      rw [hscript] at h
      rw [run_probeAll_cons w hscript, ih _ (Nat.le_of_succ_le_succ h), arrivals_cons, credentials_cons]
      simp [afterProbes, hscript, arrivals_cons]

theorem run_connectPool (w : GitHubWorld) (h : (usableTokens tokens).length ≤ w.rateLimits.length) :
    let pool := (arrivals w.probeTimeout (usableTokens tokens) w.rateLimits).filterMap Probe.credential?
    let probed := afterProbes (usableTokens tokens) w
    w.runOne (connectPool tokens) = (pool, { probed with journal := probed.journal ++ (closing pool).map .log }) := by
  have hrun : w.runOne (connectPool tokens) = (w.runOne (probeAll (usableTokens tokens))).2.runOne
      (if (w.runOne (probeAll (usableTokens tokens))).1 = [] then
        note (.log emptyWarning) >>= fun _ => .done (w.runOne (probeAll (usableTokens tokens))).1
      else .done (w.runOne (probeAll (usableTokens tokens))).1) := Program.run_bind ..
  rw [hrun, run_probeAll w h]
  dsimp only
  generalize (arrivals w.probeTimeout (usableTokens tokens) w.rateLimits).filterMap Probe.credential? = pool
  rw [closing]
  split
  · rfl
  · simp [GitHubWorld.runOne, Program.run]

/-- what a reply is worth to a token: a credential if it has a quota and comes in time -/
def credentialInTime (limit : Nat) (token : String) (r : Scripted (Except CallError Quota)) : Option Credential :=
  if r.delay ≤ limit then r.reply.toOption.map (Credential.mk token) else none

/-- or else a warning -/
def warningInTime (limit : Nat) (token : String) (r : Scripted (Except CallError Quota)) : Option LogEvent :=
  if r.delay ≤ limit then
    match r.reply with
    | .ok _ => none
    | .error e => some (skipWarning token (.failed e))
  else some (skipWarning token .timedOut)

/-- a pool was filled from these tokens, with replies that took their time -/
structure FilledInTime (tokens : List String) (w w' : GitHubWorld) : Prop where
  calls : w'.calls = w.calls ++ tokens.map .rateLimit
  credentials : w'.pool = (tokens.zip w.rateLimits).filterMap fun (token, r) => credentialInTime w.probeTimeout token r
  warned : w'.journal.events [.warn] = w.journal.events [.warn] ++
    (tokens.zip w.rateLimits).filterMap (fun (token, r) => warningInTime w.probeTimeout token r) ++ closing w'.pool

theorem credentials_arrivals (limit : Nat) (tokens : List String) (script : List (Scripted (Except CallError Quota))) :
    (arrivals limit tokens script).filterMap Probe.credential? =
      (tokens.zip script).filterMap fun (token, r) => credentialInTime limit token r := by
  rw [arrivals, List.filterMap_map]
  refine List.filterMap_congr fun p _ => ?_
  obtain ⟨token, reply, delay⟩ := p
  by_cases h : delay ≤ limit
  · cases reply <;>
      simp [Probe.credential?, GitHubWorld.probeReply, credentialInTime, h, Except.mapError, Except.toOption]
  · simp [Probe.credential?, GitHubWorld.probeReply, credentialInTime, h]

theorem warnings_arrivals (limit : Nat) (tokens : List String) (script : List (Scripted (Except CallError Quota))) :
    (arrivals limit tokens script).filterMap Probe.skip? =
      (tokens.zip script).filterMap fun (token, r) => warningInTime limit token r := by
  rw [arrivals, List.filterMap_map]
  refine List.filterMap_congr fun p _ => ?_
  obtain ⟨token, reply, delay⟩ := p
  by_cases h : delay ≤ limit
  · cases reply <;> simp [Probe.skip?, GitHubWorld.probeReply, warningInTime, h, Except.mapError]
  · simp [Probe.skip?, GitHubWorld.probeReply, warningInTime, h]

theorem filledInTime_connect (w : GitHubWorld) (h : (usableTokens tokens).length ≤ w.rateLimits.length) :
    FilledInTime (usableTokens tokens) w (PoolRun.connect w tokens).world where
  calls := by rw [PoolRun.connect, run_connectPool w h]; rfl
  credentials := by
    rw [PoolRun.connect, run_connectPool w h]
    exact credentials_arrivals ..
  warned := by
    rw [PoolRun.connect, run_connectPool w h]
    simp only [afterProbes, events_append, warnings_noted, warnings_closing, warnings_arrivals]

/-! ## From a list to the pool -/

/-- **From the text of a list to the pool nothing is lost, repeated or reordered.** Every text is a list: its parts
stand between commas, and each is a token between blanks, or blanks alone; tokens that are written so, with whatever
blanks and empty parts, are read back. GitHub is asked about each token once, in their order, whatever it replies. The
pool has just those for which it has replied with a quota, in the same order and each with its own quota, of which
nothing is reserved; each of the others is warned of once. A reply that comes later than a probe may take is one of
those. -/
theorem pool_of_list :
    (∀ list : String, ∃ parts : List ListPart,
      listText parts = list ∧ parts.map ListPart.text = Text.splitOn ',' list.toList) ∧
    ∀ parts : List ListPart, tokensOf (listText parts) = tokensIn parts ∧
      (∀ es pool, Runs (connectPool (tokensOf (listText parts))) es pool ↔
        ∃ probes, Filled (tokensIn parts) probes es pool) ∧
      (∀ (σ : Type) (answer : (r : Ask) → σ → r.Reply × σ) (s : σ), ∃ es probes,
        Filled (tokensIn parts) probes es ((connectPool (tokensOf (listText parts))).run answer s).1 ∧
          Replied answer s es ((connectPool (tokensOf (listText parts))).run answer s).2) ∧
      ∀ w : GitHubWorld, (tokensIn parts).length ≤ w.rateLimits.length →
        FilledInTime (tokensIn parts) w (PoolRun.connect w (tokensOf (listText parts))).world := by
  refine ⟨exists_parts, fun parts => ?_⟩
  have hread : tokensOf (listText parts) = tokensIn parts := tokensOf_listText parts
  have husable : usableTokens (tokensIn parts) = tokensIn parts := hread ▸ usableTokens_tokensOf (listText parts)
  have hruns : ∀ es pool, Runs (connectPool (tokensIn parts)) es pool ↔
      ∃ probes, Filled (tokensIn parts) probes es pool := by
    intro es pool
    rw [runs_connectPool, husable]
    constructor
    · rintro ⟨probes, htokens, rfl, rfl⟩
      exact ⟨probes, htokens ▸ filled_filling probes⟩
    · rintro ⟨probes, h⟩
      exact ⟨probes, h.asked, h.exchanges, h.credentials⟩
  rw [hread]
  refine ⟨rfl, hruns, ?_, ?_⟩
  · intro σ answer s
    obtain ⟨es, hes, hreplied⟩ := exists_runs answer (connectPool (tokensIn parts)) s
    obtain ⟨probes, hfilled⟩ := (hruns es _).1 hes
    exact ⟨es, probes, hfilled, hreplied⟩
  · intro w hw
    have hfilled : FilledInTime (usableTokens (tokensIn parts)) w (PoolRun.connect w (tokensIn parts)).world :=
      filledInTime_connect w (by rwa [husable])
    rwa [husable] at hfilled

/-- three tokens and a blank part, with blanks of several kinds -/
def spacedList : List ListPart := [
  ⟨[' '], "good".toList, [' '], List.all_eq_true.1 (by decide), tight_of_ends (by decide) (by decide) ['o', 'o'],
    by decide⟩,
  ⟨[], "bad".toList, [], nofun, tight_of_ends (by decide) (by decide) ['a'], by decide⟩,
  ⟨['\t'], [], [' '], List.all_eq_true.1 (by decide), ⟨nofun, nofun⟩, by decide⟩,
  ⟨['\u3000'], "late".toList, ['\n'], List.all_eq_true.1 (by decide),
    tight_of_ends (by decide) (by decide) ['a', 't'], by decide⟩]

/-- a quota that comes at the last moment, a refusal, and a quota that comes too late -/
def variedReplies : GitHubWorld where
  now := .epoch
  probeTimeout := 1000
  rateLimits := [⟨.ok ⟨7, .epoch⟩, 1000⟩, ⟨.error (.status 401 .none), 5⟩, ⟨.ok ⟨9, .epoch⟩, 1001⟩]
  users := []
  listings := []
  pool := []
  calls := []
  journal := []

theorem pool_of_list_spaced :
    listText spacedList = " good ,bad,\t ,\u3000late\n" ∧ tokensIn spacedList = ["good", "bad", "late"] ∧
      (tokensIn spacedList).length ≤ variedReplies.rateLimits.length ∧
      (PoolRun.connect variedReplies (tokensOf (listText spacedList))).world.pool = [⟨"good", ⟨7, .epoch⟩⟩] ∧
      FilledInTime (tokensIn spacedList) variedReplies
        (PoolRun.connect variedReplies (tokensOf (listText spacedList))).world := by
  have hfilled := (pool_of_list.2 spacedList).2.2.2 variedReplies (by decide)
  exact ⟨by decide, by decide, by decide, hfilled.credentials, hfilled⟩

end AccountStats.GitHub
