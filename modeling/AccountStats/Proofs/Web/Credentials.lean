import Mathlib.Tactic
import AccountStats.Web.Health
import AccountStats.Proofs.GitHub.FirstFit
import AccountStats.Proofs.Time.WholeMicros
/-
What the health check and a call for a lease take for a credential that can be used.

To the health check the window of a credential is over once it has come to its end, to a call for a lease only after
that. So the two disagree at one instant, which is that end. Results:
- `ofCredentials_ok`: the check of the credentials passes if one of them is usable;
- `leasesOrProbes_iff`: what a call that has the pool to itself makes of it while no quota can be had from GitHub;
- `usable_but_at_end`: the two agree about any pool, but for credentials whose window ends at that very instant;
- `differs_at_end`: about those they do not.
-/
namespace AccountStats.Web

open GitHub (Alone Credential Outside Pool ProbeError)

variable {now : Time.Instant} {e : Nat → ProbeError} {pool : Pool}

/-! ## The health check -/

theorem ofCredentials_ok {cs : List Pool.Status} :
    (Check.ofCredentials now cs).ok = true ↔ ∃ c ∈ cs, Check.usable now c = true := by
  unfold Check.ofCredentials
  simp only
  split_ifs with hnil hnone
  · simp [hnil]
  · have hnot : ∀ c ∈ cs, ¬ Check.usable now c = true := by
      simpa [List.length_eq_zero_iff, List.filter_eq_nil_iff] using hnone
    cases Check.earliest (cs.map fun c => c.quota.resetAt) <;> simpa using hnot
  · simpa [List.length_eq_zero_iff, List.filter_eq_nil_iff] using hnone

theorem usable_iff {c : Pool.Status} : Check.usable now c = true ↔
    0 < c.quota.remaining ∨ c.quota.resetAt.before now = true ∨ c.quota.resetAt = now := by
  rw [Check.usable, Bool.or_eq_true, decide_eq_true_eq, Bool.not_eq_true', Time.Instant.before_eq_false_iff]

/-! ## The call for a lease -/

/-- the clock stands still, and GitHub replies with no quota, each time for a reason of its own -/
def withoutReplies (now : Time.Instant) (e : Nat → ProbeError) (i : Nat) : Outside where
  now := now
  quota := .error (e i)
  user := .error (.transport "unreachable")
  listing := .error (.transport "unreachable")

/-- a call that has the pool to itself then ends with a lease, or has asked for a quota at least -/
def LeasesOrProbes (now : Time.Instant) (e : Nat → ProbeError) (pool : Pool) : Prop :=
  let r := (GitHub.acquire (pool.map Credential.token)).run (Alone.answer (withoutReplies now e)) (.start pool)
  r.1 ≠ none ∨ r.2.probed ≠ []

instance : Decidable (LeasesOrProbes now e pool) := inferInstanceAs (Decidable (_ ∨ _))

theorem checkCredential_probe {c : Credential} : (Pool.checkCredential c now).1 = .probe ↔
    c.quota.remaining = 0 ∧ c.quota.resetAt.before now = true := by
  unfold Pool.checkCredential
  split_ifs with hpos hover
  · simp [UInt32.pos_iff_ne_zero.1 hpos]
  · simp_all [Pool.windowOver]
  · simp_all [Pool.windowOver]

theorem leasesOrProbes_iff : LeasesOrProbes now e pool ↔
    ∃ c ∈ pool, 0 < c.quota.remaining ∨ (Pool.checkCredential c now).1 = .probe := by
  unfold LeasesOrProbes
  generalize hrun : (GitHub.acquire (pool.map Credential.token)).run (Alone.answer (withoutReplies now e))
    (.start pool) = r
  obtain ⟨a, w⟩ := r
  have h := GitHub.searched_acquire _ pool hrun
  constructor
  · rintro (hleased | hprobed)
    · obtain ⟨l, ha⟩ := Option.ne_none_iff_exists'.1 hleased
      obtain ⟨-, c, hc, -, hpos | ⟨-, q, hq, -⟩⟩ := h.leased l ha
      · exact ⟨c, List.mem_of_getElem? hc, .inl hpos⟩
      · cases hq
    · obtain ⟨⟨i, token⟩, hmem⟩ := List.exists_mem_of_ne_nil _ hprobed
      rw [h.probed, GitHub.mem_probesOf] at hmem
      obtain ⟨-, c, hc, -, hdue⟩ := hmem
      exact ⟨c, List.mem_of_getElem? hc, .inr (checkCredential_probe.2 hdue)⟩
  · rintro ⟨c, hmem, hc⟩
    obtain ⟨i, hi⟩ := List.mem_iff_getElem?.1 hmem
    by_cases ha : a = none
    · -- without a lease the call has come to all credentials, this one included
      have hreach : i < GitHub.reach pool a := ha ▸ (List.getElem?_eq_some_iff.1 hi).1
      have hpos : ¬ 0 < c.quota.remaining := fun hpos => h.none_iff.1 ha i c hi (.inl hpos)
      have hprobe : (Pool.checkCredential c now).1 = .probe := hc.resolve_left hpos
      have hprobed : (i, c.token) ∈ w.probed := by
        rw [h.probed, GitHub.mem_probesOf]
        exact ⟨hreach, c, hi, rfl, checkCredential_probe.1 hprobe⟩
      exact .inr (List.ne_nil_of_mem hprobed)
    · exact .inl ha

/-! ## The two of them -/

/-- used up, and its window comes to its end now -/
def EndsAt (now : Time.Instant) (c : Credential) : Prop := c.quota.remaining = 0 ∧ c.quota.resetAt = now

theorem usable_iff_or_endsAt (c : Credential) : Check.usable now ⟨c.label, c.quota⟩ = true ↔
    (0 < c.quota.remaining ∨ (Pool.checkCredential c now).1 = .probe) ∨ EndsAt now c := by
  rw [usable_iff, checkCredential_probe, EndsAt]
  by_cases hpos : 0 < c.quota.remaining
  · simp [hpos]
  · have hzero : c.quota.remaining = 0 := by simpa using hpos
    simp [hzero]

/-- **The health check and a call for a lease agree on the credentials that can be used, but for those whose window
ends at that very instant**: the health check takes these for usable, and a call passes over them. -/
theorem usable_but_at_end (now : Time.Instant) (e : Nat → ProbeError) (pool : Pool) :
    ((Check.ofCredentials now pool.statuses).ok = true ↔ LeasesOrProbes now e pool ∨ ∃ c ∈ pool, EndsAt now c) ∧
      (∀ c : Credential, Check.usable now ⟨c.label, c.quota⟩ = true ↔
        (0 < c.quota.remaining ∨ (Pool.checkCredential c now).1 = .probe) ∨ EndsAt now c) ∧
      ∀ c, EndsAt now c → (Pool.checkCredential c now).1 = .skip := by
  refine ⟨?_, usable_iff_or_endsAt, ?_⟩
  · rw [ofCredentials_ok, leasesOrProbes_iff, ← exists_or]
    simp only [Pool.statuses, List.mem_map, exists_exists_and_eq_and, usable_iff_or_endsAt, and_or_left]
  · rintro c ⟨hzero, rfl⟩
    have hover : ¬ c.quota.resetAt.before c.quota.resetAt = true := by simp [Time.Instant.before_iff]
    simp [Pool.checkCredential, Pool.windowOver, hzero, hover]

/-- at the end of its window, a credential is usable to the health check, and a call for a lease asks for nothing -/
theorem differs_at_end :
    ¬ ((Check.ofCredentials .epoch (Pool.statuses [GitHub.usedUp])).ok = true ↔
      LeasesOrProbes .epoch (fun _ => .timedOut) [GitHub.usedUp]) ∧
    ¬ (Check.usable .epoch ⟨GitHub.usedUp.label, GitHub.usedUp.quota⟩ = true ↔
      0 < GitHub.usedUp.quota.remaining ∨ (Pool.checkCredential GitHub.usedUp .epoch).1 = .probe) := by
  decide

end AccountStats.Web
