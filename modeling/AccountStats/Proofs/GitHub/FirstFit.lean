import Mathlib.Tactic
import AccountStats.Proofs.GitHub.Accounting
/-
A call for a lease that has the pool to itself.

The call looks at one credential after the other. What is outside when it looks at one (the time, and GitHub's reply if
it asks for the quota, which may be a failure or come too late) is another matter for each of them. Results:
- `run_tryCredential`: what it makes of one credential, whatever has gone before;
- `searched_leaseFrom`, `searched_acquire`: what it has made of those it has come to;
- `first_fit`: it leases the first credential that qualifies, and what it leaves of all of them.
-/
namespace AccountStats.GitHub

/-! ## Credentials that qualify -/

/-- a unit of a quota is taken; there has to be one -/
def Quota.lessOne (q : Quota) : Quota := { q with remaining := q.remaining - 1 }

namespace Credential

variable {c : Credential} {o : Outside}

/-- used up, in a window that is over -/
def Due (c : Credential) (o : Outside) : Prop := c.quota.remaining = 0 ∧ c.quota.resetAt.before o.now = true

instance : Decidable (c.Due o) := inferInstanceAs (Decidable (_ ∧ _))

/-- has quota left, or would have been given some by GitHub, which was asked for it and replied in time -/
def Qualifies (c : Credential) (o : Outside) : Prop :=
  0 < c.quota.remaining ∨ c.Due o ∧ ∃ q, o.quota = .ok q ∧ 0 < q.remaining

/-- the quota that is known once the credential has been looked at -/
def known (c : Credential) (o : Outside) : Quota :=
  match o.quota with
  | .ok q => if c.Due o then q else c.quota
  | .error _ => c.quota

theorem known_of_not_due (h : ¬ c.Due o) : c.known o = c.quota := by
  unfold known
  cases o.quota with
  | ok q => exact if_neg h
  | error e => rfl

theorem known_of_ok {q : Quota} (h : c.Due o) (hq : o.quota = .ok q) : c.known o = q := by
  rw [known, hq]
  exact if_pos h

theorem known_of_error (h : ∀ q, o.quota ≠ .ok q) : c.known o = c.quota := by
  unfold known
  cases ho : o.quota with
  | ok q => exact absurd ho (h q)
  | error e => rfl

theorem not_due_of_pos (h : 0 < c.quota.remaining) : ¬ c.Due o := fun hdue => UInt32.pos_iff_ne_zero.1 h hdue.1

theorem qualifies_iff : c.Qualifies o ↔ 0 < (c.known o).remaining := by
  constructor
  · rintro (hpos | ⟨hdue, q, hq, hpos⟩)
    · rwa [known_of_not_due (not_due_of_pos hpos)]
    · rwa [known_of_ok hdue hq]
  · intro h
    by_cases hdue : c.Due o
    · cases hq : o.quota with
      | ok q =>
        rw [known_of_ok hdue hq] at h
        exact .inr ⟨hdue, q, hq, h⟩
      | error e =>
        rw [known_of_error (by simp [hq])] at h
        exact .inl h
    · rw [known_of_not_due hdue] at h
      exact .inl h

instance : Decidable (c.Qualifies o) := decidable_of_iff _ qualifies_iff.symm

/-- what a call leaves of a credential that it has looked at -/
def tried (c : Credential) (o : Outside) : Credential :=
  { c with quota := if c.Qualifies o then (c.known o).lessOne else c.known o }

end Credential

/-! ## The surroundings of the call -/

/-- a pool that no other call changes, and what the call has done so far -/
structure Alone where
  pool : Pool
  /-- the credential looked at last -/
  current : Nat
  /-- whose quota was asked for, and the token it was asked with -/
  probed : List (Nat × String)
  journal : Journal

namespace Alone

/-- the call is about to begin -/
def start (pool : Pool) : Alone := ⟨pool, 0, [], []⟩

/-- the outside is as it is when the credential is looked at -/
def answer (o : Nat → Outside) (r : Ask) (w : Alone) : r.Reply × Alone :=
  match r with
  | .check i =>
    let (x, pool) := Pool.answer (o i) (.check i) w.pool
    (x, { w with pool, current := i })
  | .probe token => ((o w.current).quota, { w with probed := w.probed ++ [(w.current, token)] })
  | .note n => ((), { w with journal := w.journal ++ [n] })
  | r =>
    let (x, pool) := Pool.answer (o w.current) r w.pool
    (x, { w with pool })

theorem answer_install (o : Nat → Outside) (i : Nat) (q : Quota) (w : Alone) :
    answer o (.install i q) w = ((w.pool.install i q).1, { w with pool := (w.pool.install i q).2 }) := rfl

/-- the call has looked at a credential, and noted this -/
def lookAt (w : Alone) (o : Nat → Outside) (i : Nat) (c : Credential) (noted : List LogEvent) : Alone where
  pool := w.pool.set i (c.tried (o i))
  current := i
  probed := w.probed ++ if c.Due (o i) then [(i, c.token)] else []
  journal := w.journal ++ noted.map .log

end Alone

variable {o : Nat → Outside} {pool : Pool} {w : Alone} {c : Credential} {i n : Nat}

theorem run_noteProbeFailure (token : String) (e : ProbeError) : ∃ event, ∀ w,
    (noteProbeFailure token e).run (Alone.answer o) w = ((), { w with journal := w.journal ++ [.log event] }) := by
  cases e with
  | failed e => exact ⟨_, fun _ => rfl⟩
  | timedOut => exact ⟨_, fun _ => rfl⟩

theorem check_of_pos (hc : pool[i]? = some c) (h : 0 < c.quota.remaining) (now : Time.Instant) :
    pool.check i now = (.reserved, pool.set i { c with quota := c.quota.lessOne }) := by
  simp only [Pool.check, hc, Pool.checkCredential, if_pos h]
  rfl

theorem check_of_due (hc : pool[i]? = some c) {o : Outside} (h : c.Due o) :
    pool.check i o.now = (.probe, pool.set i c) := by
  have hzero : ¬ 0 < c.quota.remaining := fun hpos => Credential.not_due_of_pos hpos h
  have hover : Pool.windowOver c.quota o.now = true := h.2
  simp only [Pool.check, hc, Pool.checkCredential, if_neg hzero, if_pos hover]

theorem check_of_not_due (hc : pool[i]? = some c) {o : Outside} (hzero : ¬ 0 < c.quota.remaining) (h : ¬ c.Due o) :
    pool.check i o.now = (.skip, pool.set i c) := by
  have hover : ¬ Pool.windowOver c.quota o.now = true := fun hover => h ⟨by simpa using hzero, hover⟩
  simp only [Pool.check, hc, Pool.checkCredential, if_neg hzero, if_neg hover]

theorem install_eq (hc : pool[i]? = some c) (q : Quota) : pool.install i q =
    (decide (0 < q.remaining), pool.set i { c with quota := if 0 < q.remaining then q.lessOne else q }) := by
  simp only [Pool.install, hc]
  split
  · next h => simp [h, Quota.lessOne]
  · next h => simp [h]

/-- a try is a check and, if that says so, a request for the quota and what comes of it -/
theorem run_tryCredential_eq (i : Nat) (token : String) : (tryCredential i token).run (Alone.answer o) w =
    match w.pool.check i (o i).now with
    | (.reserved, pool) => (some ⟨i, token⟩, { w with pool, current := i })
    | (.skip, pool) => (none, { w with pool, current := i })
    | (.probe, pool) =>
      let w' : Alone := { w with pool, current := i, probed := w.probed ++ [(i, token)] }
      match (o i).quota with
      | .ok q => (if (pool.install i q).1 then some ⟨i, token⟩ else none, { w' with pool := (pool.install i q).2 })
      | .error e => (none, ((noteProbeFailure token e).run (Alone.answer o) w').2) := by
  simp only [tryCredential, ask, bind, Program.bind, Program.run, Alone.answer, Pool.answer]
  generalize w.pool.check i (o i).now = r
  obtain ⟨x, p⟩ := r
  cases x with
  | reserved => rfl
  | skip => rfl
  | probe =>
    simp only [Program.run, Alone.answer]
    cases (o i).quota with
    | ok q =>
      rw [Program.run, Alone.answer_install]
      dsimp only
      split <;> rfl
    | error e => exact Program.run_bind ..

/-- a credential with quota left is leased at once -/
theorem run_tryCredential_of_pos (hc : w.pool[i]? = some c) (hpos : 0 < c.quota.remaining) :
    (tryCredential i c.token).run (Alone.answer o) w = (some ⟨i, c.token⟩, w.lookAt o i c []) := by
  have hqualifies : c.Qualifies (o i) := .inl hpos
  have hdue : ¬ c.Due (o i) := Credential.not_due_of_pos hpos
  rw [run_tryCredential_eq, check_of_pos hc hpos]
  simp [Alone.lookAt, Credential.tried, hqualifies, hdue, Credential.known_of_not_due]

/-- nothing is asked for as long as the window of a used-up one runs -/
theorem run_tryCredential_of_not_due (hc : w.pool[i]? = some c) (hzero : ¬ 0 < c.quota.remaining)
    (hdue : ¬ c.Due (o i)) :
    (tryCredential i c.token).run (Alone.answer o) w = (none, w.lookAt o i c []) := by
  have hqualifies : ¬ c.Qualifies (o i) := by simp [Credential.Qualifies, hzero, hdue]
  rw [run_tryCredential_eq, check_of_not_due hc hzero hdue]
  simp [Alone.lookAt, Credential.tried, hqualifies, hdue, Credential.known_of_not_due]

theorem run_tryCredential_of_ok {q : Quota} (hc : w.pool[i]? = some c) (hdue : c.Due (o i))
    (hq : (o i).quota = .ok q) : (tryCredential i c.token).run (Alone.answer o) w =
      (if c.Qualifies (o i) then some ⟨i, c.token⟩ else none, w.lookAt o i c []) := by
  have hlt : i < w.pool.length := (List.getElem?_eq_some_iff.1 hc).1
  have hinstall := install_eq (List.getElem?_set_self hlt (a := c)) q
  rw [run_tryCredential_eq, check_of_due hc hdue]
  simp [hq, hinstall, Alone.lookAt, Credential.tried, Credential.qualifies_iff, Credential.known_of_ok hdue hq, hdue]

theorem run_tryCredential_of_error {e : ProbeError} (hc : w.pool[i]? = some c) (hdue : c.Due (o i))
    (he : (o i).quota = .error e) : ∃ event,
      (tryCredential i c.token).run (Alone.answer o) w = (none, w.lookAt o i c [event]) := by
  have hnone : ∀ q, (o i).quota ≠ .ok q := by simp [he]
  have hqualifies : ¬ c.Qualifies (o i) := by simp [Credential.qualifies_iff, Credential.known_of_error hnone, hdue.1]
  obtain ⟨event, hevent⟩ := run_noteProbeFailure (o := o) c.token e
  refine ⟨event, ?_⟩
  rw [run_tryCredential_eq, check_of_due hc hdue]
  simp [he, hevent, Alone.lookAt, Credential.tried, hqualifies, hdue, Credential.known_of_error hnone]

/-- **One credential: it is leased if it qualifies**, and its quota is asked for if it is used up in a window that is
over. -/
theorem run_tryCredential (hc : w.pool[i]? = some c) : ∃ noted, (tryCredential i c.token).run (Alone.answer o) w =
    (if c.Qualifies (o i) then some ⟨i, c.token⟩ else none, w.lookAt o i c noted) := by
  by_cases hpos : 0 < c.quota.remaining
  · rw [if_pos (.inl hpos)]
    exact ⟨[], run_tryCredential_of_pos hc hpos⟩
  by_cases hdue : c.Due (o i)
  · cases hq : (o i).quota with
    | ok q => exact ⟨[], run_tryCredential_of_ok hc hdue hq⟩
    | error e =>
      obtain ⟨event, h⟩ := run_tryCredential_of_error hc hdue hq
      rw [if_neg (by simp [Credential.Qualifies, hpos, hq])]
      exact ⟨[event], h⟩
  · rw [if_neg (by simp [Credential.Qualifies, hpos, hdue])]
    exact ⟨[], run_tryCredential_of_not_due hc hpos hdue⟩

/-! ## One credential after the other -/

/-- whose quota is asked for of the first `n` credentials: of those used up in a window that is over -/
def probesOf (o : Nat → Outside) (pool : Pool) (n : Nat) : List (Nat × String) :=
  (pool.zipIdx.take n).filterMap fun (c, i) => if c.Due (o i) then some (i, c.token) else none

/-- the call has looked at the first `n` credentials, has leased one of them or not, and has counted this -/
structure Searched (o : Nat → Outside) (pool : Pool) (n : Nat) (a : Option Lease) (counted : List (Counter × Nat))
    (w : Alone) : Prop where
  passed : ∀ i c, i < n → pool[i]? = some c → c.Qualifies (o i) → a = some ⟨i, c.token⟩
  leased : ∀ l, a = some l → l.index + 1 = n ∧
    ∃ c, pool[l.index]? = some c ∧ c.token = l.token ∧ c.Qualifies (o l.index)
  tried : ∀ i, w.pool[i]? = pool[i]?.map fun c => if i < n then c.tried (o i) else c
  probed : w.probed = probesOf o pool n
  counted : w.journal.totals = counted

theorem searched_start (o : Nat → Outside) (pool : Pool) : Searched o pool 0 none [] (.start pool) where
  passed _ _ hi := absurd hi (Nat.not_lt_zero _)
  leased := nofun
  tried i := by simp [Alone.start]
  probed := rfl
  counted := rfl

theorem probesOf_succ (hc : pool[n]? = some c) :
    probesOf o pool (n + 1) = probesOf o pool n ++ if c.Due (o n) then [(n, c.token)] else [] := by
  have hn : pool.zipIdx[n]? = some (c, n) := by simp [List.getElem?_zipIdx, hc]
  rw [probesOf, List.take_add_one, List.filterMap_append, hn, ← probesOf]
  by_cases hdue : c.Due (o n) <;> simp [hdue]

/-- log events count nothing -/
theorem totals_append_log (j : Journal) (events : List LogEvent) :
    Journal.totals (j ++ events.map .log) = j.totals := by
  rw [Journal.totals, Journal.totals, List.foldl_append, List.foldl_map]
  exact List.foldl_fixed events

/-- a credential that the call has not come to is as it was -/
theorem Searched.ahead {a : Option Lease} {counted : List (Counter × Nat)} (h : Searched o pool n a counted w)
    (hc : pool[n]? = some c) : w.pool[n]? = some c := by
  simp [h.tried, hc]

/-- **One step: a credential that does not qualify is passed over, and the search ends with one that does.** -/
theorem Searched.lookAt (h : Searched o pool n none [] w) (hc : pool[n]? = some c) (noted : List LogEvent) :
    Searched o pool (n + 1) (if c.Qualifies (o n) then some ⟨n, c.token⟩ else none) []
      (w.lookAt o n c noted) where
  passed i d hi hd hqualifies := by
    rcases Nat.lt_succ_iff_lt_or_eq.1 hi with hi | rfl
    · exact absurd (h.passed i d hi hd hqualifies) nofun
    · cases hc.symm.trans hd
      exact if_pos hqualifies
  leased l hl := by
    split at hl
    · next hqualifies =>
      cases hl
      exact ⟨rfl, c, hc, rfl, hqualifies⟩
    · cases hl
  tried i := by
    have hlt : n < w.pool.length := (List.getElem?_eq_some_iff.1 (h.ahead hc)).1
    by_cases hi : i = n
    · subst hi
      simp [Alone.lookAt, List.getElem?_set_self hlt, hc]
    · have hsame : (w.lookAt o n c noted).pool[i]? = w.pool[i]? := List.getElem?_set_ne (Ne.symm hi)
      have hbefore : i < n + 1 ↔ i < n := by omega
      simp only [hsame, h.tried, hbefore]
  probed := by
    rw [probesOf_succ hc, ← h.probed]
    rfl
  counted := (totals_append_log w.journal noted).trans h.counted

/-- how many credentials a call has looked at that ends so -/
def reach (pool : Pool) (a : Option Lease) : Nat := a.elim pool.length (·.index + 1)

theorem run_orElse (p q : Program Calls (Option Lease)) : (orElse p q).run (Alone.answer o) w =
    match p.run (Alone.answer o) w with
    | (some l, w') => (some l, w')
    | (none, w') => q.run (Alone.answer o) w' := by
  rw [orElse, Program.run_bind]
  generalize p.run (Alone.answer o) w = r
  obtain ⟨a, w'⟩ := r
  cases a <;> rfl

/-- **A whole search: it goes on until a credential qualifies, or there is none left.** -/
theorem searched_leaseFrom (before rest : Pool) (h : Searched o (before ++ rest) before.length none [] w) {a w'}
    (hrun : (leaseFrom before.length (rest.map Credential.token)).run (Alone.answer o) w = (a, w')) :
    Searched o (before ++ rest) (reach (before ++ rest) a) a [] w' := by
  induction rest generalizing before w with
  | nil =>
    cases hrun
    rwa [List.append_nil] at h ⊢
  | cons c rest ih =>
    have hc : (before ++ c :: rest)[before.length]? = some c := by simp
    obtain ⟨noted, hstep⟩ := run_tryCredential (o := o) (h.ahead hc)
    have hnext := h.lookAt hc noted
    rw [List.map_cons, leaseFrom_cons, run_orElse, hstep] at hrun
    by_cases hqualifies : c.Qualifies (o before.length)
    · rw [if_pos hqualifies] at hrun hnext
      cases hrun
      exact hnext
    · rw [if_neg hqualifies] at hrun hnext
      have hlength : before.length + 1 = (before ++ [c]).length := by simp
      rw [hlength, List.append_cons] at hnext
      rw [hlength] at hrun
      rw [List.append_cons]
      exact ih (before ++ [c]) hnext hrun

theorem searched_acquire (o : Nat → Outside) (pool : Pool) {a w}
    (hrun : (acquire (pool.map Credential.token)).run (Alone.answer o) (.start pool) = (a, w)) :
    Searched o pool (reach pool a) a (if a = none then [(exhaustedCounter, 1)] else []) w := by
  rw [acquire_eq, run_orElse] at hrun
  generalize hlease : (leaseFrom 0 (pool.map Credential.token)).run (Alone.answer o) (.start pool) = r at hrun
  obtain ⟨b, w'⟩ := r
  have hsearched := searched_leaseFrom [] pool (searched_start o pool) hlease
  cases b with
  | some l =>
    cases hrun
    exact hsearched
  | none =>
    cases hrun
    have hcounted : Journal.totals (w'.journal ++ [.count exhaustedCounter 1]) = [(exhaustedCounter, 1)] := by
      rw [Journal.totals, List.foldl_append, ← Journal.totals, hsearched.counted]
      rfl
    exact { hsearched with counted := (totals_append_log _ [_]).trans hcounted }

/-! ## What the call comes to -/

variable {a : Option Lease} {counted : List (Counter × Nat)}

theorem mem_probesOf {token : String} : (i, token) ∈ probesOf o pool n ↔
    i < n ∧ ∃ c, pool[i]? = some c ∧ c.token = token ∧ Credential.Due c (o i) := by
  rw [probesOf, List.mem_filterMap]
  constructor
  · rintro ⟨⟨c, j⟩, hmem, hc⟩
    obtain ⟨hdue, rfl, htoken⟩ : c.Due (o j) ∧ j = i ∧ c.token = token := by simpa using hc
    obtain ⟨k, hk⟩ := List.mem_iff_getElem?.1 hmem
    obtain ⟨hkn, hk⟩ : k < n ∧ pool.zipIdx[k]? = some (c, j) := by simpa [List.getElem?_take] using hk
    obtain ⟨hpool, rfl⟩ : pool[k]? = some c ∧ k = j := by simpa [List.getElem?_zipIdx] using hk
    exact ⟨hkn, c, hpool, htoken, hdue⟩
  · rintro ⟨hi, c, hc, rfl, hdue⟩
    have hmem : (c, i) ∈ pool.zipIdx.take n := by
      refine List.mem_iff_getElem?.2 ⟨i, ?_⟩
      rw [List.getElem?_take_of_lt hi, List.getElem?_zipIdx, hc]
      simp
    exact ⟨(c, i), hmem, if_pos hdue⟩

namespace Searched

/-- of the credentials looked at, it is the one leased that qualifies -/
theorem qualifies_iff (h : Searched o pool n a counted w) (hi : i < n) (hc : pool[i]? = some c) :
    c.Qualifies (o i) ↔ a = some ⟨i, c.token⟩ := by
  constructor
  · exact h.passed i c hi hc
  · intro ha
    obtain ⟨-, d, hd, -, hqualifies⟩ := h.leased _ ha
    cases hc.symm.trans hd
    exact hqualifies

theorem none_iff (h : Searched o pool (reach pool a) a counted w) :
    a = none ↔ ∀ i c, pool[i]? = some c → ¬ Credential.Qualifies c (o i) := by
  constructor
  · rintro rfl i c hc hqualifies
    cases h.passed i c (List.getElem?_eq_some_iff.1 hc).1 hc hqualifies
  · intro hnone
    by_contra ha
    obtain ⟨l, ha⟩ := Option.ne_none_iff_exists'.1 ha
    obtain ⟨-, c, hc, -, hqualifies⟩ := h.leased l ha
    exact hnone l.index c hc hqualifies

theorem length_eq (h : Searched o pool n a counted w) : w.pool.length = pool.length := by
  have hsame : w.pool = pool.mapIdx fun i c => if i < n then c.tried (o i) else c := by
    apply List.ext_getElem?
    intro i
    rw [h.tried, List.getElem?_mapIdx]
  rw [hsame, List.length_mapIdx]

end Searched

/-- the window of the first credential still runs, GitHub does not reply in time for the second, and replies for the
third that there is still nothing left -/
example :
    let o (i : Nat) : Outside := ⟨.next .epoch, if i = 1 then .error .timedOut else .ok ⟨0, .next (.next .epoch)⟩,
      .error (.transport "unreachable"), .error (.transport "unreachable")⟩
    let pool : Pool :=
      [⟨"a", ⟨0, .next .epoch⟩⟩, ⟨"b", ⟨0, .epoch⟩⟩, ⟨"c", ⟨0, .epoch⟩⟩, ⟨"d", ⟨2, .epoch⟩⟩, ⟨"e", ⟨3, .epoch⟩⟩]
    let r := (acquire (pool.map Credential.token)).run (Alone.answer o) (.start pool)
    r.1 = some ⟨3, "d"⟩ ∧ r.2.probed = [(1, "b"), (2, "c")] ∧ r.2.pool.map (·.quota.remaining) = [0, 0, 0, 1, 3] := by
  decide

end AccountStats.GitHub
