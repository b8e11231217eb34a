import Mathlib.Tactic
import AccountStats.Proofs.GitHub.Leasing
/-
The quota of a credential as an account, whatever calls are made on the pool at once.

Calls for leases and records of responses are interleaved in any order, the clock and GitHub's replies being whatever
they are at each moment. What a step puts down for a credential (a quota that GitHub replied with, or one that a response
reported) and the units that it reserves are read off its exchange. Results:
- `answer_balance`: what one step does to the account of a credential;
- `quota_accounted`: in every reachable state, what remains is what was put down last, less the leases granted since.
-/
namespace AccountStats.GitHub

open Program (Exchange asks_ask asks_done)

/-! ## The pool and what is outside -/

/-- what the outside has to say at one moment: the time, and GitHub's replies -/
structure Outside where
  now : Time.Instant
  quota : Except ProbeError Quota
  user : Except CallError (Response User)
  listing : Except CallError (Response (List ListedRepository))

namespace Pool

/-- the pool answers what is about credentials, and the outside the rest -/
def answer (o : Outside) (r : Ask) (p : Pool) : r.Reply × Pool :=
  match r with
  | .now => (o.now, p)
  | .check i => p.check i o.now
  | .install i fresh => p.install i fresh
  | .record i report => ((), p.record i report)
  | .probe _ => (o.quota, p)
  | .getUser _ _ => (o.user, p)
  | .listRepositories _ _ _ => (o.listing, p)
  | .note _ => ((), p)

end Pool

/-- a call that is made on a pool: for a lease, or with what a response reported -/
inductive PoolCall where
  | acquire
  | record (index : Nat) (report : QuotaReport)
deriving DecidableEq, Repr

namespace PoolCall

def program (tokens : List String) : PoolCall → Program Calls (Option Lease)
  | .acquire => GitHub.acquire tokens
  | .record i report => do
    ask (.record i report)
    return none

/-- all calls are about to begin -/
def start (pool : Pool) (calls : List PoolCall) : Interleaving Calls Pool (Option Lease) :=
  .start pool (calls.map (program (pool.map Credential.token)))

/-- what a call may ask for after these exchanges -/
def Allowed (tokens : List String) : PoolCall → List (Exchange Calls) → Ask → Prop
  | .acquire => GitHub.Allowed tokens
  | .record i report => fun _ r => r = .record i report

theorem asks_program (tokens : List String) (c : PoolCall) : (c.program tokens).Asks (c.Allowed tokens) := by
  cases c with
  | acquire => exact asks_acquire tokens
  | record i report => exact asks_ask rfl fun _ => asks_done _

theorem pays_program {i : Nat} (tokens : List String) (c : PoolCall) : Pays i 0 (c.program tokens) := by
  cases c with
  | acquire => exact pays_acquire tokens
  | record j report => exact Program.tells_ask rfl fun _ => Program.tells_done rfl

end PoolCall

/-! ## The account of one credential -/

/-- the remaining quota that an exchange puts down for a credential, if it does -/
def writes? (i : Nat) (e : Exchange Calls) : Option UInt32 :=
  match e.request with
  | .install j fresh => if j = i then some fresh.remaining else none
  | .record j report => if j = i then report.remaining else none
  | _ => none

/-- an exchange that is not about the quota of a credential: a step on another one, a report without a usable remaining
quota, or anything outside the pool, such as a probe that failed or took too long -/
def passesBy (i : Nat) : Ask → Bool
  | .check j => j != i
  | .install j _ => j != i
  | .record j report => j != i || report.remaining.isNone
  | .now | .probe _ | .getUser _ _ | .listRepositories _ _ _ | .note _ => true

def remaining (p : Pool) (i : Nat) : Nat := p[i]?.elim 0 fun c => c.quota.remaining.toNat

/-- the remaining quota put down last; at the start, that of the pool -/
def written (pool : Pool) (i : Nat) : List (Occurrence Calls) → Nat
  | [] => remaining pool i
  | e :: earlier => (writes? i e.exchange).elim (written pool i earlier) UInt32.toNat

/-- the units reserved since then -/
def granted (i : Nat) : List (Occurrence Calls) → Nat
  | [] => 0
  | e :: earlier =>
    (if (writes? i e.exchange).isSome then 0 else granted i earlier) + if grants i e.exchange then 1 else 0

variable {pool p : Pool} {calls : List PoolCall} {i : Nat}

theorem remaining_set_self {c : Credential} (hi : i < p.length) :
    remaining (p.set i c) i = c.quota.remaining.toNat := by
  rw [remaining, List.getElem?_set_self hi]
  rfl

theorem remaining_set_other {c : Credential} {j : Nat} (h : j ≠ i) : remaining (p.set j c) i = remaining p i := by
  rw [remaining, List.getElem?_set_ne h, remaining]

theorem toNat_sub_one {n : UInt32} (h : 0 < n) : (n - 1).toNat + 1 = n.toNat := by
  have hle : (1 : UInt32) ≤ n := by
    rw [UInt32.le_iff_toNat_le]
    exact UInt32.lt_iff_toNat_lt.1 h
  rw [UInt32.toNat_sub_of_le _ _ hle]
  exact Nat.sub_add_cancel (UInt32.lt_iff_toNat_lt.1 h)

theorem length_answer (o : Outside) (r : Ask) (p : Pool) : (Pool.answer o r p).2.length = p.length := by
  cases r with
  | check j =>
    simp only [Pool.answer, Pool.check]
    cases p[j]? with
    | none => rfl
    | some c => exact List.length_set ..
  | install j fresh =>
    simp only [Pool.answer, Pool.install]
    cases p[j]? with
    | none => rfl
    | some c => dsimp only; split <;> exact List.length_set ..
  | record j report =>
    simp only [Pool.answer, Pool.record]
    cases p[j]? with
    | none => rfl
    | some c => exact List.length_set ..
  | _ => rfl

theorem checkCredential_balance (c : Credential) (now : Time.Instant) :
    (Pool.checkCredential c now).2.quota.remaining.toNat +
        (if (Pool.checkCredential c now).1 = .reserved then 1 else 0) = c.quota.remaining.toNat := by
  unfold Pool.checkCredential
  split
  · next h => exact toNat_sub_one h
  · split <;> rfl

theorem check_balance (now : Time.Instant) (hi : i < p.length) :
    remaining (p.check i now).2 i + (if (p.check i now).1 = .reserved then 1 else 0) = remaining p i := by
  simp only [Pool.check, remaining, List.getElem?_eq_getElem hi, List.getElem?_set_self hi, Option.elim_some]
  exact checkCredential_balance p[i] now

theorem install_balance (fresh : Quota) (hi : i < p.length) :
    remaining (p.install i fresh).2 i + (if (p.install i fresh).1 then 1 else 0) = fresh.remaining.toNat := by
  simp only [Pool.install, List.getElem?_eq_getElem hi]
  split
  · next h =>
    rw [remaining_set_self hi]
    exact toNat_sub_one h
  · rw [remaining_set_self hi]
    rfl

theorem record_balance (report : QuotaReport) (hi : i < p.length) :
    remaining (p.record i report) i = report.remaining.elim (remaining p i) UInt32.toNat := by
  simp only [Pool.record, remaining, List.getElem?_eq_getElem hi, List.getElem?_set_self hi, Option.elim_some,
    Quota.apply]
  cases report.remaining <;> rfl

/-- a step that is not about a credential puts nothing down for it, and reserves nothing -/
theorem answer_passesBy (o : Outside) {r : Ask} (hi : i < p.length) (h : passesBy i r) :
    remaining (Pool.answer o r p).2 i = remaining p i ∧
      ∀ x, writes? i ⟨r, x⟩ = none ∧ grants i ⟨r, x⟩ = false := by
  cases r with
  | check j =>
    have hj : j ≠ i := by simpa [passesBy] using h
    refine ⟨?_, fun x => ⟨rfl, by simp [grants, hj]⟩⟩
    simp only [Pool.answer, Pool.check]
    cases p[j]? with
    | none => rfl
    | some c => exact remaining_set_other hj
  | install j fresh =>
    have hj : j ≠ i := by simpa [passesBy] using h
    refine ⟨?_, fun x => ⟨by simp [writes?, hj], by simp [grants, hj]⟩⟩
    simp only [Pool.answer, Pool.install]
    cases p[j]? with
    | none => rfl
    | some c => dsimp only; split <;> exact remaining_set_other hj
  | record j report =>
    have hj : j = i → report.remaining = none := by simpa [passesBy, ← imp_iff_not_or] using h
    refine ⟨?_, fun x => ⟨by simpa [writes?] using hj, rfl⟩⟩
    simp only [Pool.answer]
    by_cases hji : j = i
    · subst hji
      rw [record_balance report hi, hj rfl]
      rfl
    · simp only [Pool.record]
      cases p[j]? with
      | none => rfl
      | some c => exact remaining_set_other hji
  | _ => exact ⟨rfl, fun x => ⟨rfl, rfl⟩⟩

/-- **One step: what remains and what it reserves make what it put down, or what remained before.** -/
theorem answer_balance (o : Outside) (r : Ask) (hi : i < p.length) :
    remaining (Pool.answer o r p).2 i + (if grants i ⟨r, (Pool.answer o r p).1⟩ then 1 else 0) =
      (writes? i ⟨r, (Pool.answer o r p).1⟩).elim (remaining p i) UInt32.toNat := by
  by_cases h : passesBy i r
  · obtain ⟨hsame, hnothing⟩ := answer_passesBy o hi h
    rw [hsame, (hnothing _).1, (hnothing _).2]
    rfl
  · cases r with
    | check j =>
      obtain rfl : j = i := by simpa [passesBy] using h
      simpa [Pool.answer, grants, writes?] using check_balance o.now hi
    | install j fresh =>
      obtain rfl : j = i := by simpa [passesBy] using h
      simpa [Pool.answer, grants, writes?] using install_balance fresh hi
    | record j report =>
      obtain ⟨rfl, -⟩ : j = i ∧ _ := by simpa [passesBy] using h
      simpa [Pool.answer, grants, writes?] using record_balance report hi
    | _ => exact absurd rfl h

/-! ## Every reachable state -/

variable {s t : Interleaving Calls Pool (Option Lease)} {moments : List (Nat × Outside)}

/-- the account of a credential is in order -/
structure Balanced (pool : Pool) (i : Nat) (s : Interleaving Calls Pool (Option Lease)) : Prop where
  length : s.world.length = pool.length
  balance : remaining s.world i + granted i s.history = written pool i s.history
  covered : ∀ earlier, earlier <:+ s.history → granted i earlier ≤ written pool i earlier

theorem balanced_start : Balanced pool i (PoolCall.start pool calls) where
  length := rfl
  balance := rfl
  covered earlier h := by
    rw [List.suffix_nil.1 h]
    exact Nat.zero_le _

theorem step_balanced {k : Nat} {o : Outside} (hi : i < pool.length) (h : s.step? Pool.answer k o = some t)
    (hs : Balanced pool i s) : Balanced pool i t := by
  obtain ⟨r, next, -, rfl⟩ := Interleaving.step?_eq_some.1 h
  have hbalance := answer_balance o r (hs.length ▸ hi)
  have hnow : remaining (Pool.answer o r s.world).2 i +
      granted i (⟨k, ⟨r, (Pool.answer o r s.world).1⟩⟩ :: s.history) =
        written pool i (⟨k, ⟨r, (Pool.answer o r s.world).1⟩⟩ :: s.history) := by
    rw [granted, written]
    cases hw : writes? i ⟨r, (Pool.answer o r s.world).1⟩ with
    | none =>
      rw [hw, Option.elim_none] at hbalance
      rw [Option.isSome_none, if_neg Bool.false_ne_true, Option.elim_none, ← hs.balance, ← hbalance]
      dsimp only
      omega
    | some n =>
      rw [hw] at hbalance
      simpa using hbalance
  refine ⟨(length_answer o r s.world).trans hs.length, hnow, fun earlier he => ?_⟩
  rcases List.suffix_cons_iff.1 he with rfl | he
  · exact (Nat.le_add_left ..).trans hnow.le
  · exact hs.covered earlier he

theorem balanced_of_run (hi : i < pool.length)
    (hrun : (PoolCall.start pool calls).run? Pool.answer moments = some s) : Balanced pool i s :=
  Interleaving.run_preserves (fun _ _ _ _ => step_balanced hi) hrun balanced_start

/-- nothing is put down while these exchanges go on -/
def Between (i : Nat) (es : List (Occurrence Calls)) : Prop := ∀ e ∈ es, writes? i e.exchange = none

theorem written_append {es earlier : List (Occurrence Calls)} (h : Between i es) :
    written pool i (es ++ earlier) = written pool i earlier := by
  induction es with
  | nil => rfl
  | cons e es ih =>
    obtain ⟨he, hes⟩ := List.forall_mem_cons.1 h
    rw [List.cons_append, written, he]
    exact ih hes

theorem granted_append {es earlier : List (Occurrence Calls)} (h : Between i es) :
    granted i (es ++ earlier) = es.countP (fun e => grants i e.exchange) + granted i earlier := by
  induction es with
  | nil => exact (Nat.zero_add _).symm
  | cons e es ih =>
    obtain ⟨he, hes⟩ := List.forall_mem_cons.1 h
    rw [List.cons_append, granted, he, List.countP_cons, Option.isSome_none, if_neg Bool.false_ne_true, ih hes]
    omega

/-- what holds of the account of a credential after any run -/
structure Accounted (pool : Pool) (calls : List PoolCall) (i : Nat) (s : Interleaving Calls Pool (Option Lease)) :
    Prop where
  /-- what remains is what was put down last, less the units reserved since -/
  balance : remaining s.world i = written pool i s.history - granted i s.history
  /-- which it covers, now and before -/
  covered : ∀ earlier, earlier <:+ s.history → granted i earlier ≤ written pool i earlier
  /-- the units reserved until the first quota is put down are within that of the pool -/
  first : ∀ later es, s.history = later ++ es → Between i es →
    es.countP (fun e => grants i e.exchange) ≤ remaining pool i
  /-- the units reserved from one quota put down to the next are within the first -/
  between : ∀ later es e earlier n, s.history = later ++ (es ++ e :: earlier) → Between i es →
    writes? i e.exchange = some n → (es ++ [e]).countP (fun e => grants i e.exchange) ≤ n.toNat
  /-- each unit reserved is a lease granted -/
  leases : s.history.countP (fun e => grants i e.exchange) = s.programs.countP (leased i)
  /-- a quota put down by a call for a lease is what GitHub replied to it -/
  probed : ∀ later k fresh x earlier, s.history = later ++ ⟨k, ⟨.install i fresh, x⟩⟩ :: earlier →
    ∃ c, pool[i]? = some c ∧ ⟨k, ⟨.probe c.token, .ok fresh⟩⟩ ∈ earlier
  /-- any other is what a response reported -/
  recorded : ∀ later k report earlier, s.history = later ++ ⟨k, ⟨.record i report, ()⟩⟩ :: earlier →
    calls[k]? = some (.record i report)
  /-- a step that is not about the credential changes neither side -/
  frame : ∀ k o t, s.step? Pool.answer k o = some t → ∃ e, t.history = e :: s.history ∧
    (passesBy i e.exchange.request → remaining t.world i = remaining s.world i ∧
      written pool i t.history = written pool i s.history ∧ granted i t.history = granted i s.history)

theorem asked_of_run {k : Nat} {e : Exchange Calls} {later earlier : List (Occurrence Calls)}
    (hrun : (PoolCall.start pool calls).run? Pool.answer moments = some s)
    (hsplit : s.history = later ++ ⟨k, e⟩ :: earlier) : ∃ c, calls[k]? = some c ∧
      c.Allowed (pool.map Credential.token) (Interleaving.exchangesOf earlier k) e.request := by
  let allowed (k : Nat) (es : List (Exchange Calls)) (r : Ask) : Prop :=
    ∃ c, calls[k]? = some c ∧ c.Allowed (pool.map Credential.token) es r
  have hasks : ∀ (k : Nat) p, (calls.map (PoolCall.program (pool.map Credential.token)))[k]? = some p →
      p.Asks (allowed k) := by
    intro k p hp es r next hleads
    rw [List.getElem?_map, Option.map_eq_some_iff] at hp
    obtain ⟨c, hc, rfl⟩ := hp
    exact ⟨c, hc, c.asks_program _ es r next hleads⟩
  exact Interleaving.asked_of_run hasks hrun later ⟨k, e⟩ earlier hsplit

theorem probed_of_run {k : Nat} {fresh : Quota} {x : Bool} {later earlier : List (Occurrence Calls)}
    (hrun : (PoolCall.start pool calls).run? Pool.answer moments = some s)
    (hsplit : s.history = later ++ ⟨k, ⟨.install i fresh, x⟩⟩ :: earlier) :
    ∃ c, pool[i]? = some c ∧ ⟨k, ⟨.probe c.token, .ok fresh⟩⟩ ∈ earlier := by
  obtain ⟨call, -, hallowed⟩ := asked_of_run hrun hsplit
  cases call with
  | acquire =>
    obtain ⟨token, htoken, hlast⟩ := hallowed
    rw [List.getElem?_map, Option.map_eq_some_iff] at htoken
    obtain ⟨c, hc, rfl⟩ := htoken
    exact ⟨c, hc, Interleaving.mem_of_mem_exchangesOf (List.mem_of_getLast? hlast)⟩
  | record j report => cases hallowed

theorem recorded_of_run {k : Nat} {report : QuotaReport} {later earlier : List (Occurrence Calls)}
    (hrun : (PoolCall.start pool calls).run? Pool.answer moments = some s)
    (hsplit : s.history = later ++ ⟨k, ⟨.record i report, ()⟩⟩ :: earlier) : calls[k]? = some (.record i report) := by
  obtain ⟨call, hcall, hallowed⟩ := asked_of_run hrun hsplit
  cases call with
  | acquire => exact hallowed.elim
  | record j report' =>
    cases hallowed
    exact hcall

theorem leases_of_run (hrun : (PoolCall.start pool calls).run? Pool.answer moments = some s) :
    s.history.countP (fun e => grants i e.exchange) = s.programs.countP (leased i) := by
  refine Interleaving.countP_of_run (fun p hp => ?_) hrun
  obtain ⟨c, -, rfl⟩ := List.mem_map.1 hp
  exact c.pays_program _

/-- **In every reachable state, the remaining quota of a credential is what was put down for it last, less the leases
granted on it since.** -/
theorem quota_accounted (hi : i < pool.length)
    (hrun : (PoolCall.start pool calls).run? Pool.answer moments = some s) : Accounted pool calls i s where
  balance := by
    have := (balanced_of_run hi hrun).balance
    omega
  covered := (balanced_of_run hi hrun).covered
  first later es hsplit hes := by
    have hcovered := (balanced_of_run hi hrun).covered es ⟨later, hsplit.symm⟩
    rw [← List.append_nil es, granted_append hes, written_append hes] at hcovered
    exact hcovered
  between later es e earlier n hsplit hes he := by
    have hcovered := (balanced_of_run hi hrun).covered _ ⟨later, hsplit.symm⟩
    rw [granted_append hes, written_append hes, granted, written, he] at hcovered
    rw [List.countP_append, List.countP_singleton]
    simpa using hcovered
  leases := leases_of_run hrun
  probed _ _ _ _ _ := probed_of_run hrun
  recorded _ _ _ _ := recorded_of_run hrun
  frame k o t h := by
    obtain ⟨r, next, -, rfl⟩ := Interleaving.step?_eq_some.1 h
    refine ⟨_, rfl, fun hpasses => ?_⟩
    obtain ⟨hsame, hnothing⟩ := answer_passesBy o ((balanced_of_run hi hrun).length ▸ hi) hpasses
    refine ⟨hsame, ?_, ?_⟩
    · rw [written, (hnothing _).1]
      rfl
    · rw [granted, (hnothing _).1, (hnothing _).2]
      rfl

/-- a credential that is used up, in a window that is over -/
def usedUp : Credential := ⟨"ghp_spent", ⟨0, .epoch⟩⟩

/-- just after that, GitHub replies with some quota for a window that still runs, and with nothing else -/
def replying (remaining : UInt32) : Outside where
  now := .next .epoch
  quota := .ok ⟨remaining, .next (.next .epoch)⟩
  user := .error (.transport "unreachable")
  listing := .error (.transport "unreachable")

/-- the calls that probe a used-up credential at once, and what a response reports in the meantime -/
def twoProbes : List PoolCall := [.acquire, .acquire, .record 0 ⟨some 8, none⟩]

/-- the response is recorded after one of them has put its quota down, and before the other does -/
def reportBetween : List (Nat × Outside) := [0, 1, 1, 0, 0, 2, 1].map (·, replying 5)

theorem quota_accounted_probed : ∃ s, (PoolCall.start [usedUp] twoProbes).run? Pool.answer reportBetween = some s ∧
    0 < [usedUp].length ∧ Accounted [usedUp] twoProbes 0 s ∧
      remaining s.world 0 = 4 ∧ s.programs.countP (leased 0) = 2 := by
  have hrun : ((PoolCall.start [usedUp] twoProbes).run? Pool.answer reportBetween).map
      (fun s => (remaining s.world 0, s.programs.countP (leased 0))) = some (4, 2) := by decide
  obtain ⟨s, hs, hend⟩ := Option.map_eq_some_iff.1 hrun
  exact ⟨s, hs, by decide, quota_accounted (by decide) hs, congrArg Prod.fst hend, congrArg Prod.snd hend⟩

end AccountStats.GitHub
