import Mathlib.Tactic
import AccountStats.Proofs.GitHub.Accounting
/-
Calls for a lease that all find the same credential used up and its window over.

Nothing is locked while GitHub answers, so each of them may ask for the quota before the first reply is put down, and
each reply is put down over what is there, leases granted from an earlier one included. Results:
- `leases_le_replies`: the leases are within the quota once for each reply put down;
- `fresh_quota_overspent`: two calls get a lease each out of a quota of one.
-/
namespace AccountStats.GitHub

open Program (Exchange)

/-! ## All quotas put down -/

/-- the remaining quotas that were put down for a credential, the newest first -/
def puts (i : Nat) (history : List (Occurrence Calls)) : List UInt32 := history.filterMap fun e => writes? i e.exchange

/-- what GitHub replied of the quota of a token, if that was the request and there was a reply -/
def reply? (token : String) : Exchange Calls → Option Quota
  | ⟨.probe t, .ok fresh⟩ => if t = token then some fresh else none
  | _ => none

/-- all that GitHub replied of the quota of a token, the newest first -/
def replies (token : String) (history : List (Occurrence Calls)) : List Quota :=
  history.filterMap fun e => reply? token e.exchange

theorem mem_replies {token : String} {fresh : Quota} {history : List (Occurrence Calls)} {k : Nat}
    (h : ⟨k, ⟨.probe token, .ok fresh⟩⟩ ∈ history) : fresh ∈ replies token history :=
  List.mem_filterMap.2 ⟨_, h, if_pos rfl⟩

variable {pool : Pool} {calls : List PoolCall} {i n : Nat} {moments : List (Nat × Outside)}
  {s t : Interleaving Calls Pool (Option Lease)}

theorem sum_puts_cons (e : Occurrence Calls) (history : List (Occurrence Calls)) :
    ((puts i (e :: history)).map UInt32.toNat).sum =
      (writes? i e.exchange).elim 0 UInt32.toNat + ((puts i history).map UInt32.toNat).sum := by
  rw [puts, List.filterMap_cons]
  cases writes? i e.exchange with
  | none => exact (Nat.zero_add _).symm
  | some n => exact List.sum_cons

/-- the units reserved and what remains come out of the first quota and those put down later -/
def Covered (pool : Pool) (i : Nat) (s : Interleaving Calls Pool (Option Lease)) : Prop :=
  s.world.length = pool.length ∧
    s.history.countP (fun e => grants i e.exchange) + remaining s.world i ≤
      remaining pool i + ((puts i s.history).map UInt32.toNat).sum

theorem step_covered {k : Nat} {o : Outside} (hi : i < pool.length) (h : s.step? Pool.answer k o = some t)
    (hs : Covered pool i s) : Covered pool i t := by
  obtain ⟨r, next, -, rfl⟩ := Interleaving.step?_eq_some.1 h
  obtain ⟨hlength, hcovered⟩ := hs
  have hbalance := answer_balance o r (hlength ▸ hi)
  refine ⟨(length_answer o r s.world).trans hlength, ?_⟩
  rw [List.countP_cons, sum_puts_cons]
  cases hw : writes? i ⟨r, (Pool.answer o r s.world).1⟩ with
  | none =>
    rw [hw, Option.elim_none] at hbalance
    dsimp only [Option.elim_none]
    omega
  | some n =>
    rw [hw, Option.elim_some] at hbalance
    dsimp only [Option.elim_some]
    omega

theorem covered_of_run (hi : i < pool.length)
    (hrun : (PoolCall.start pool calls).run? Pool.answer moments = some s) : Covered pool i s :=
  Interleaving.run_preserves (fun _ _ _ _ => step_covered hi) hrun ⟨rfl, by simp [PoolCall.start, Interleaving.start]⟩

/-! ## Calls for leases only -/

/-- calls for leases put down only what GitHub replied -/
theorem mem_puts {c : Credential} {u : UInt32} (hc : pool[i]? = some c)
    (hrun : (PoolCall.start pool (List.replicate n .acquire)).run? Pool.answer moments = some s)
    (hu : u ∈ puts i s.history) : ∃ fresh ∈ replies c.token s.history, fresh.remaining = u := by
  obtain ⟨⟨k, r, x⟩, he, hw⟩ := List.mem_filterMap.1 hu
  obtain ⟨later, earlier, hsplit⟩ := List.append_of_mem he
  cases r with
  | install j fresh =>
    obtain ⟨rfl, rfl⟩ : j = i ∧ fresh.remaining = u := by simpa [writes?] using hw
    obtain ⟨c', hc', hprobe⟩ := probed_of_run hrun hsplit
    cases hc.symm.trans hc'
    refine ⟨fresh, mem_replies (k := k) ?_, rfl⟩
    rw [hsplit]
    exact List.mem_append_right _ (List.mem_cons_of_mem _ hprobe)
  | record j report =>
    obtain ⟨rfl, -⟩ : j = i ∧ report.remaining = some u := by simpa [writes?] using hw
    have hcall := recorded_of_run hrun hsplit
    cases List.eq_of_mem_replicate (List.mem_of_getElem? hcall)
  | _ => cases hw

/-- **However many calls for a lease there are at once, and in whatever order they go on: if GitHub always replies with
the same quota for a credential that was used up, the leases on it are within that quota once for each reply put
down.** -/
theorem leases_le_replies {c : Credential} {q : Quota} (hc : pool[i]? = some c) (hspent : c.quota.remaining = 0)
    (hrun : (PoolCall.start pool (List.replicate n .acquire)).run? Pool.answer moments = some s)
    (hq : ∀ fresh ∈ replies c.token s.history, fresh = q) :
    s.programs.countP (leased i) ≤ (puts i s.history).length * q.remaining.toNat ∧
      ((puts i s.history).length ≤ 1 → s.programs.countP (leased i) ≤ q.remaining.toNat) := by
  have hi : i < pool.length := (List.getElem?_eq_some_iff.1 hc).1
  have hnothing : remaining pool i = 0 := by
    rw [remaining, hc, Option.elim_some, hspent]
    rfl
  have hsame : puts i s.history = List.replicate (puts i s.history).length q.remaining := by
    refine List.eq_replicate_of_mem fun u hu => ?_
    obtain ⟨fresh, hfresh, rfl⟩ := mem_puts hc hrun hu
    rw [hq fresh hfresh]
  have hcovered := (covered_of_run hi hrun).2
  rw [leases_of_run hrun, hnothing, hsame, List.map_replicate, List.sum_replicate, smul_eq_mul] at hcovered
  have hleases : s.programs.countP (leased i) ≤ (puts i s.history).length * q.remaining.toNat := by omega
  refine ⟨hleases, fun hone => hleases.trans ?_⟩
  calc (puts i s.history).length * q.remaining.toNat ≤ 1 * q.remaining.toNat := Nat.mul_le_mul_right _ hone
    _ = q.remaining.toNat := Nat.one_mul _

/-! ## Two replies put down -/

/-- the quota that GitHub replies with -/
def oneLeft : Quota := ⟨1, .next (.next .epoch)⟩

/-- two calls for a lease, each of which asks GitHub for the quota before the other has put it down -/
def bothProbe : List (Nat × Outside) := [0, 1, 0, 1, 0, 1].map (·, replying 1)

theorem both_probe : ∃ s, (PoolCall.start [usedUp] (List.replicate 2 .acquire)).run? Pool.answer bothProbe = some s ∧
    replies usedUp.token s.history = [oneLeft, oneLeft] ∧ s.programs.countP (leased 0) = 2 := by
  have hrun : ((PoolCall.start [usedUp] (List.replicate 2 .acquire)).run? Pool.answer bothProbe).map
      (fun s => (replies usedUp.token s.history, s.programs.countP (leased 0))) = some ([oneLeft, oneLeft], 2) := by
    decide
  obtain ⟨s, hs, hend⟩ := Option.map_eq_some_iff.1 hrun
  exact ⟨s, hs, congrArg Prod.fst hend, congrArg Prod.snd hend⟩

theorem leases_le_replies_both : ∃ s,
    (PoolCall.start [usedUp] (List.replicate 2 .acquire)).run? Pool.answer bothProbe = some s ∧
      s.programs.countP (leased 0) ≤ (puts 0 s.history).length * oneLeft.remaining.toNat := by
  obtain ⟨s, hs, hreplies, -⟩ := both_probe
  refine ⟨s, hs, (leases_le_replies (c := usedUp) rfl rfl hs ?_).1⟩
  rw [hreplies]
  decide

/-- **Calls for a lease at once may overspend**, though all that GitHub replies is the same quota, for a window that
lasts longer than all calls, and nothing is recorded. -/
theorem fresh_quota_overspent :
    ¬ ∀ (pool : Pool) (i : Nat) (c : Credential) (q : Quota) (n : Nat) (moments : List (Nat × Outside))
        (s : Interleaving Calls Pool (Option Lease)),
      pool[i]? = some c → c.quota.remaining = 0 →
      (∀ m ∈ moments, Pool.windowOver c.quota m.2.now = true ∧ Pool.windowOver q m.2.now = false) →
      (PoolCall.start pool (List.replicate n .acquire)).run? Pool.answer moments = some s →
      (∀ fresh ∈ replies c.token s.history, fresh = q) →
      s.programs.countP (leased i) ≤ q.remaining.toNat := by
  intro h
  obtain ⟨s, hs, hreplies, hleased⟩ := both_probe
  have hle := h [usedUp] 0 usedUp oneLeft 2 bothProbe s rfl rfl (by decide) hs (by rw [hreplies]; decide)
  rw [hleased] at hle
  exact absurd hle (by decide)

end AccountStats.GitHub
