import Mathlib.Tactic
import AccountStats.Proofs.GitHub.Accounting
import AccountStats.Proofs.Program.Running
/-
What a call for a lease has seen, while other calls change the pool under it.

A call looks at one credential after the other, each of them at a moment of its own. What it has found at one of them may
no longer be so at the next: other calls reserve units, put down quotas and record responses in between, also while it
waits for GitHub. Results:
- `scans_acquire`: each credential is checked once at most, in order, up to the one that is leased, or all of them;
- `asks_probes`: the quota of a credential is asked for only right after its check;
- `scanned_of_run`: a call that ends without a lease has seen each credential used up at some moment, so there is a lease
  if one of the credentials never is; and what it asks GitHub for.
-/
namespace AccountStats.GitHub

open Program (Exchange Within leads_done leads_ask leads_done_iff_runs within_done within_ask asks_done asks_ask
  ensures_done ensures_ask)

/-! ## The credentials in order -/

/-- the credential that an exchange checks -/
def checked? : Exchange Calls → Option Nat
  | ⟨.check i, _⟩ => some i
  | _ => none

/-- the credentials checked so far -/
def checkedIn (es : List (Exchange Calls)) : List Nat := es.filterMap checked?

/-- nothing of a credential was left to reserve when it was checked -/
def PassesOver (i : Nat) (es : List (Exchange Calls)) : Prop := ∃ x, x ≠ Pool.Check.reserved ∧ ⟨.check i, x⟩ ∈ es

/-- a scan of `n` credentials from the one at `j` on has made these exchanges and has got to where it is -/
structure Scans (j n : Nat) (es : List (Exchange Calls)) (q : Program Calls (Option Lease)) : Prop where
  inOrder : checkedIn es <+: List.range' j n
  complete : q = .done none → checkedIn es = List.range' j n
  passed : q = .done none → ∀ i, j ≤ i → i < j + n → PassesOver i es
  leased : ∀ l, q = .done (some l) → j ≤ l.index ∧ l.index < j + n ∧ ∀ i, j ≤ i → i < l.index → PassesOver i es

variable {i j m n : Nat} {token : String} {es : List (Exchange Calls)} {p q r : Program Calls (Option Lease)}

theorem PassesOver.append_left {es' : List (Exchange Calls)} (h : PassesOver i es) : PassesOver i (es ++ es') := by
  obtain ⟨x, hx, hmem⟩ := h
  exact ⟨x, hx, List.mem_append_left es' hmem⟩

theorem PassesOver.append_right {es' : List (Exchange Calls)} (h : PassesOver i es') : PassesOver i (es ++ es') := by
  obtain ⟨x, hx, hmem⟩ := h
  exact ⟨x, hx, List.mem_append_right es hmem⟩

/-- a scan that goes on where another one has found nothing -/
theorem Scans.join {es' : List (Exchange Calls)} (h : Scans j m es (.done none)) (h' : Scans (j + m) n es' q) :
    Scans j (m + n) (es ++ es') q := by
  have hfirst : checkedIn (es ++ es') = List.range' j m ++ checkedIn es' := by
    rw [checkedIn, List.filterMap_append, ← checkedIn, ← checkedIn, h.complete rfl]
  have hpassed : ∀ i, j ≤ i → (j + m ≤ i → PassesOver i es') → PassesOver i (es ++ es') := by
    intro i hle hlater
    by_cases hi : i < j + m
    · exact (h.passed rfl i hle hi).append_left
    · exact (hlater (Nat.le_of_not_lt hi)).append_right
  constructor
  · rw [hfirst, ← List.range'_append_1]
    exact (List.prefix_append_right_inj _).2 h'.inOrder
  · intro hq
    rw [hfirst, h'.complete hq, List.range'_append_1]
  · intro hq i hle hlt
    exact hpassed i hle fun hi => h'.passed hq i hi (by omega)
  · intro l hl
    obtain ⟨hle, hlt, hbefore⟩ := h'.leased l hl
    exact ⟨by omega, by omega, fun i hi hil => hpassed i hi fun hji => hbefore i hji hil⟩

/-- a scan that has not found nothing is one of more credentials -/
theorem Scans.extend (h : Scans j m es p) (hr : r ≠ .done none) (hsame : ∀ l, r = .done (some l) → p = r) :
    Scans j (m + n) es r := by
  refine ⟨h.inOrder.trans ⟨_, List.range'_append_1⟩, fun hnone => absurd hnone hr, fun hnone => absurd hnone hr, ?_⟩
  intro l hl
  obtain ⟨hle, hlt, hbefore⟩ := h.leased l ((hsame l hl).trans hl)
  exact ⟨hle, by omega, hbefore⟩

theorem scans_orElse (hp : ∀ es r, p.Leads es r → Scans j m es r) (hq : ∀ es r, q.Leads es r → Scans (j + m) n es r)
    (h : (orElse p q).Leads es r) : Scans j (m + n) es r := by
  rcases h.split with ⟨p', hp', rfl⟩ | ⟨es₁, es₂, a, rfl, hp', hq'⟩
  · match p' with
    | .done none =>
      rw [← List.append_nil es]
      exact (hp es _ hp').join (hq [] q (.rest q))
    | .done (some l) => exact (hp es _ hp').extend nofun fun _ _ => rfl
    | .ask .. => exact (hp es _ hp').extend nofun nofun
  · cases a with
    | none => exact (hp es₁ _ hp').join (hq es₂ r hq')
    | some l =>
      obtain ⟨rfl, rfl⟩ := leads_done.1 hq'
      rw [List.append_nil]
      exact (hp es₁ _ hp').extend nofun fun _ _ => rfl

/-- a program that checks nothing -/
theorem checkedIn_of_asks (hp : p.Asks fun _ r => ∀ i, r ≠ .check i) (h : p.Leads es q) : checkedIn es = [] := by
  rw [checkedIn, List.filterMap_eq_nil_iff]
  intro e he
  obtain ⟨before, after, rfl⟩ := List.append_of_mem he
  have hnot : ∀ i, e.request ≠ .check i := hp.of_leads h
  obtain ⟨r, x⟩ := e
  cases r with
  | check i => exact absurd rfl (hnot i)
  | _ => rfl

/-- one credential is checked, and nothing else after that -/
theorem scans_checked {x : Pool.Check} {rest : Program Calls (Option Lease)}
    (hasks : rest.Asks fun _ r => ∀ i, r ≠ .check i)
    (hresult : rest.Ensures (fun _ => True) fun a => (a = none → x ≠ .reserved) ∧ ∀ l, a = some l → l.index = j)
    (h : rest.Leads es q) : Scans j 1 (⟨.check j, x⟩ :: es) q := by
  have hchecked : checkedIn (⟨.check j, x⟩ :: es) = List.range' j 1 := congrArg (j :: ·) (checkedIn_of_asks hasks h)
  have hend : ∀ a, q = .done a → (a = none → x ≠ .reserved) ∧ ∀ l, a = some l → l.index = j := by
    rintro a rfl
    exact hresult es a (leads_done_iff_runs.1 h) fun _ _ => trivial
  constructor
  · exact hchecked ▸ List.prefix_rfl
  · exact fun _ => hchecked
  · intro hq i hle hlt
    obtain rfl : i = j := by omega
    exact ⟨x, (hend none hq).1 rfl, List.mem_cons_self⟩
  · intro l hl
    have hindex := (hend (some l) hl).2 l rfl
    exact ⟨by omega, by omega, fun i hle hlt => by omega⟩

/-- a credential is checked at first, and not again -/
theorem checks_first : (tryCredential j token).Asks fun es r => ∀ i, r = .check i → es = [] := by
  -- any list with the token at `j` will do
  have hallows : Allows (List.replicate (j + 1) token) fun es r => ∀ i, r = .check i → es = [] :=
    { check := fun _ _ _ => rfl
      probe := fun _ _ _ => nofun
      install := fun _ _ _ _ => nofun
      note := fun _ _ => nofun }
  exact hallows.tryCredential (by simp)

theorem scans_tryCredential (h : (tryCredential j token).Leads es q) : Scans j 1 es q := by
  rcases leads_ask.1 h with ⟨rfl, rfl⟩ | ⟨x, es, rfl, hrest⟩
  · exact ⟨List.nil_prefix, nofun, nofun, nofun⟩
  refine scans_checked ?_ ?_ hrest
  · intro es' r next hnext i hr
    cases checks_first _ r next (.ask hnext) i hr
  · cases x with
    | reserved => exact ensures_done ⟨nofun, fun l hl => by cases hl; rfl⟩
    | skip => exact ensures_done ⟨nofun, nofun⟩
    | probe =>
      refine ensures_ask fun x _ => ?_
      cases x with
      | ok fresh =>
        refine ensures_ask fun x _ => ?_
        cases x with
        | true => exact ensures_done ⟨nofun, fun l hl => by cases hl; rfl⟩
        | false => exact ensures_done ⟨nofun, nofun⟩
      | error e => cases e <;> exact ensures_ask fun _ _ => ensures_done ⟨nofun, nofun⟩

theorem scans_noteExhausted {credentials : Nat} (h : (noteExhausted credentials).Leads es q) : Scans j 0 es q := by
  have hasks : (noteExhausted credentials).Asks fun _ r => ∀ i, r ≠ .check i :=
    asks_ask nofun fun _ => asks_ask nofun fun _ => asks_done _
  have hnone : (noteExhausted credentials).Ensures (fun _ => True) fun a => a = none :=
    ensures_ask fun _ _ => ensures_ask fun _ _ => ensures_done rfl
  have hchecked : checkedIn es = [] := checkedIn_of_asks hasks h
  constructor
  · exact hchecked ▸ List.nil_prefix
  · exact fun _ => hchecked
  · intro _ i hle hlt
    omega
  · rintro l rfl
    cases hnone es (some l) (leads_done_iff_runs.1 h) fun _ _ => trivial

theorem scans_leaseFrom {tokens : List String} (h : (leaseFrom j tokens).Leads es q) :
    Scans j tokens.length es q := by
  induction tokens generalizing j es q with
  | nil =>
    obtain ⟨rfl, rfl⟩ := leads_done.1 h
    exact ⟨List.nil_prefix, fun _ => rfl, fun _ i hle hlt => by simp at hlt; omega, nofun⟩
  | cons token rest ih =>
    rw [leaseFrom_cons] at h
    rw [List.length_cons, Nat.add_comm]
    exact scans_orElse (fun _ _ => scans_tryCredential) (fun _ _ => ih) h

/-- **A call checks the credentials in order, each of them once at most**, and passes over those before the one that it
leases, or over all. -/
theorem scans_acquire {tokens : List String} (h : (acquire tokens).Leads es q) : Scans 0 tokens.length es q := by
  rw [acquire_eq] at h
  exact scans_orElse (fun _ _ => scans_leaseFrom) (fun _ _ => scans_noteExhausted) h

/-! ## What GitHub is asked -/

/-- what a call may ask for after these exchanges: the quota of a credential only right after the check that says so -/
def Probing (tokens : List String) (es : List (Exchange Calls)) : Ask → Prop
  | .probe token => ∃ i, tokens[i]? = some token ∧ es.getLast? = some ⟨.check i, Pool.Check.probe⟩
  | _ => True

variable {tokens : List String}

theorem Probing.append {r : Ask} (h : Probing tokens es r) (before : List (Exchange Calls)) :
    Probing tokens (before ++ es) r := by
  match r with
  | .probe token =>
    obtain ⟨i, hi, hlast⟩ := h
    exact ⟨i, hi, by rw [List.getLast?_append, hlast]; rfl⟩
  | .now | .check _ | .install .. | .record .. | .getUser .. | .listRepositories .. | .note _ => trivial

/-- **A call asks for the quota of a credential only right after its check.** -/
theorem asks_probes (tokens : List String) : (acquire tokens).Asks (Probing tokens) := by
  have hallows : Allows tokens (Probing tokens) :=
    { check := fun _ => trivial
      probe := fun i _ hi => ⟨i, hi, rfl⟩
      install := fun _ _ _ _ => trivial
      note := fun _ _ => trivial }
  exact hallows.acquire Probing.append

/-! ## How long a call is -/

theorem within_orElse (hp : Within m p) (hq : Within n q) : Within (m + n) (orElse p q) := by
  refine hp.bind fun a => ?_
  cases a with
  | none => exact hq
  | some l => exact within_done _ n

theorem within_tryCredential : Within 3 (tryCredential j token) := by
  refine within_ask fun x => ?_
  cases x with
  | reserved => exact within_done _ 2
  | skip => exact within_done _ 2
  | probe =>
    refine within_ask fun x => ?_
    cases x with
    | ok fresh =>
      refine within_ask fun x => ?_
      cases x <;> exact within_done _ 0
    | error e => cases e <;> exact within_ask fun _ => within_done _ 0

theorem within_leaseFrom (j : Nat) (tokens : List String) : Within (3 * tokens.length) (leaseFrom j tokens) := by
  induction tokens generalizing j with
  | nil => exact within_done _ 0
  | cons token rest ih =>
    rw [leaseFrom_cons, List.length_cons, Nat.mul_succ, Nat.add_comm]
    exact within_orElse within_tryCredential (ih (j + 1))

/-- **A call comes to its end.** -/
theorem within_acquire (tokens : List String) : Within (3 * tokens.length + 2) (acquire tokens) := by
  rw [acquire_eq]
  have hnote : Within 2 (noteExhausted tokens.length) := within_ask fun _ => within_ask fun _ => within_done _ 0
  exact within_orElse (within_leaseFrom 0 tokens) hnote

/-! ## While other calls go on -/

/-- at a moment of a run, when the outside is so and all calls have got so far, a call makes a request -/
def Requests (pool : Pool) (calls : List PoolCall) (moments : List (Nat × Outside)) (k : Nat) (r : Ask) (o : Outside)
    (t : Interleaving Calls Pool (Option Lease)) : Prop :=
  (∃ before after, moments = before ++ (k, o) :: after ∧ (PoolCall.start pool calls).run? Pool.answer before = some t) ∧
    ∃ next, t.programs[k]? = some (.ask r next)

/-- at some moment, a call has looked at a credential and seen that it is used up -/
def SeesUsedUp (pool : Pool) (calls : List PoolCall) (moments : List (Nat × Outside)) (k i : Nat) : Prop :=
  ∃ o t c, Requests pool calls moments k (.check i) o t ∧ t.world[i]? = some c ∧ c.quota.remaining = 0

/-- and that its window was over at that moment -/
def SeesWindowOver (pool : Pool) (calls : List PoolCall) (moments : List (Nat × Outside)) (k i : Nat) : Prop :=
  ∃ o t c, Requests pool calls moments k (.check i) o t ∧ t.world[i]? = some c ∧ c.quota.remaining = 0 ∧
    c.quota.resetAt.before o.now = true

/-- the quota of a credential was asked for right after its check -/
def probedAfter (i : Nat) : Exchange Calls × Exchange Calls → Bool
  | (⟨.check j, _⟩, ⟨.probe _, _⟩) => j == i
  | _ => false

/-- what a call for a lease has come to after a run, and what it has seen -/
structure Scanned (pool : Pool) (calls : List PoolCall) (moments : List (Nat × Outside)) (k : Nat)
    (s : Interleaving Calls Pool (Option Lease)) : Prop where
  /-- without a lease, it has seen each credential used up -/
  exhausted : s.programs[k]? = some (.done none) → ∀ i < pool.length, SeesUsedUp pool calls moments k i
  /-- with one, it has seen those before it used up -/
  passed : ∀ l, s.programs[k]? = some (.done (some l)) → l.index < pool.length ∧
    ∀ i < l.index, SeesUsedUp pool calls moments k i
  /-- if some credential always has quota left when the call makes a request, it ends with a lease on it, or on one
  before it -/
  leases : ∀ i < pool.length, (∀ r o t, Requests pool calls moments k r o t → 0 < remaining t.world i) →
    ∀ a, s.programs[k]? = some (.done a) → ∃ l, a = some l ∧ l.index ≤ i
  /-- it does end: until then it can go on at any moment, and it makes so many requests at most -/
  goesOn : (∃ a, s.programs[k]? = some (.done a)) ∨ ∀ o, (s.step? Pool.answer k o).isSome
  ends : (Interleaving.exchangesOf s.history k).length ≤ 3 * pool.length + 2
  /-- it asks for the quota of a credential only if it has just seen it used up, in a window that was over -/
  probed : ∀ before token o after t next, moments = before ++ (k, o) :: after →
    (PoolCall.start pool calls).run? Pool.answer before = some t → t.programs[k]? = some (.ask (.probe token) next) →
    ∃ i c, pool[i]? = some c ∧ c.token = token ∧ SeesWindowOver pool calls before k i ∧
      (Interleaving.exchangesOf t.history k).getLast? = some ⟨.check i, Pool.Check.probe⟩
  /-- and not again -/
  once : ∀ i, ((Interleaving.exchangesOf s.history k).zip (Interleaving.exchangesOf s.history k).tail).countP
    (probedAfter i) ≤ 1

variable {pool : Pool} {calls : List PoolCall} {moments : List (Nat × Outside)} {k : Nat}
  {s : Interleaving Calls Pool (Option Lease)}

theorem check_ne_reserved {now : Time.Instant} {c : Credential} (hc : pool[i]? = some c)
    (h : (pool.check i now).1 ≠ .reserved) : c.quota.remaining = 0 := by
  by_contra hne
  have hpos : 0 < c.quota.remaining := UInt32.pos_iff_ne_zero.2 hne
  refine h ?_
  simp only [Pool.check, hc, Pool.checkCredential, if_pos hpos]

theorem check_probe {now : Time.Instant} (h : (pool.check i now).1 = .probe) :
    ∃ c, pool[i]? = some c ∧ c.quota.remaining = 0 ∧ c.quota.resetAt.before now = true := by
  cases hc : pool[i]? with
  | none => simp [Pool.check, hc] at h
  | some c =>
    have hused : c.quota.remaining = 0 := check_ne_reserved hc (by rw [h]; decide)
    refine ⟨c, rfl, hused, ?_⟩
    by_contra hover
    simp [Pool.check, hc, Pool.checkCredential, hused, Pool.windowOver, hover] at h

theorem leads_acquire (hk : calls[k]? = some .acquire)
    (hrun : (PoolCall.start pool calls).run? Pool.answer moments = some s) : ∃ q, s.programs[k]? = some q ∧
      (acquire (pool.map Credential.token)).Leads (Interleaving.exchangesOf s.history k) q := by
  refine (Interleaving.leads_of_run hrun).2 k _ ?_
  rw [List.getElem?_map, hk]
  rfl

theorem length_of_run (hrun : (PoolCall.start pool calls).run? Pool.answer moments = some s) :
    s.world.length = pool.length := by
  refine Interleaving.run_preserves (P := fun s => s.world.length = pool.length) ?_ hrun rfl
  intro s k o t h hs
  obtain ⟨r, next, -, rfl⟩ := Interleaving.step?_eq_some.1 h
  exact (length_answer o r s.world).trans hs

/-- what a call was replied to a check is what the pool was like at some moment -/
theorem moment_of_check {x : Pool.Check}
    (hrun : (PoolCall.start pool calls).run? Pool.answer moments = some s)
    (hmem : ⟨.check i, x⟩ ∈ Interleaving.exchangesOf s.history k) :
    ∃ o t, Requests pool calls moments k (.check i) o t ∧ t.world.length = pool.length ∧
      x = (t.world.check i o.now).1 := by
  obtain ⟨later, earlier, hsplit⟩ := List.append_of_mem (Interleaving.mem_of_mem_exchangesOf hmem)
  obtain ⟨before, o, after, t, next, hmoments, ht, -, hnext, hx⟩ := Interleaving.moment_of_run hrun hsplit
  exact ⟨o, t, ⟨⟨before, after, hmoments, ht⟩, next, hnext⟩, length_of_run ht, hx⟩

theorem seesUsedUp_of_passesOver (hrun : (PoolCall.start pool calls).run? Pool.answer moments = some s)
    (hi : i < pool.length) (h : PassesOver i (Interleaving.exchangesOf s.history k)) :
    SeesUsedUp pool calls moments k i := by
  obtain ⟨x, hx, hmem⟩ := h
  obtain ⟨o, t, hrequests, hlength, rfl⟩ := moment_of_check hrun hmem
  have hlt : i < t.world.length := hlength ▸ hi
  have hc : t.world[i]? = some t.world[i] := List.getElem?_eq_getElem hlt
  exact ⟨o, t, _, hrequests, hc, check_ne_reserved hc hx⟩

/-- a call asks for the quota of a credential only if it has just seen it used up, in a window that was over -/
theorem probed_of_moment {before : List (Nat × Outside)} {t : Interleaving Calls Pool (Option Lease)}
    {next : Except ProbeError Quota → Program Calls (Option Lease)} (hk : calls[k]? = some .acquire)
    (ht : (PoolCall.start pool calls).run? Pool.answer before = some t)
    (hnext : t.programs[k]? = some (.ask (.probe token) next)) :
    ∃ i c, pool[i]? = some c ∧ c.token = token ∧ SeesWindowOver pool calls before k i ∧
      (Interleaving.exchangesOf t.history k).getLast? = some ⟨.check i, Pool.Check.probe⟩ := by
  obtain ⟨q, hq, hleads⟩ := leads_acquire hk ht
  cases hnext.symm.trans hq
  obtain ⟨i, htoken, hlast⟩ := asks_probes _ _ _ _ hleads
  rw [List.getElem?_map, Option.map_eq_some_iff] at htoken
  obtain ⟨c, hc, hctoken⟩ := htoken
  obtain ⟨o, u, hrequests, -, hx⟩ := moment_of_check ht (List.mem_of_getLast? hlast)
  obtain ⟨c', hc', hused, hover⟩ := check_probe hx.symm
  exact ⟨i, c, hc, hctoken, ⟨o, u, c', hrequests, hc', hused, hover⟩, hlast⟩

theorem checked?_of_probedAfter {e e' : Exchange Calls} (h : probedAfter i (e, e') = true) : checked? e = some i := by
  obtain ⟨r, x⟩ := e
  obtain ⟨r', x'⟩ := e'
  cases r <;> cases r' <;> simp_all [probedAfter, checked?]

theorem countP_probedAfter (i : Nat) (es : List (Exchange Calls)) :
    (es.zip es.tail).countP (probedAfter i) ≤ (checkedIn es).count i := by
  induction es with
  | nil => exact Nat.zero_le _
  | cons e es ih =>
    cases es with
    | nil => exact Nat.zero_le _
    | cons e' rest =>
      rw [List.tail_cons, List.zip_cons_cons, List.countP_cons]
      by_cases h : probedAfter i (e, e') = true
      · rw [checkedIn, List.filterMap_cons_some (checked?_of_probedAfter h), List.count_cons_self, if_pos h]
        exact Nat.succ_le_succ ih
      · have hmore : (checkedIn (e' :: rest)).count i ≤ (checkedIn (e :: e' :: rest)).count i :=
          ((List.sublist_cons_self e _).filterMap checked?).count_le i
        rw [if_neg h]
        exact ih.trans hmore

/-- if each credential is checked once at most, its quota is asked for once at most after that -/
theorem countP_probedAfter_le {es : List (Exchange Calls)} (h : checkedIn es <+: List.range' j n) :
    (es.zip es.tail).countP (probedAfter i) ≤ 1 := by
  have hnodup : (checkedIn es).Nodup := h.sublist.nodup List.nodup_range'
  exact (countP_probedAfter i es).trans (List.nodup_iff_count_le_one.1 hnodup i)

/-- **No call for a lease finds the pool exhausted that was not.** Whatever other calls do in the meantime, and whatever
GitHub replies, it passes over a credential only if it has seen it used up. -/
theorem scanned_of_run (hk : calls[k]? = some .acquire)
    (hrun : (PoolCall.start pool calls).run? Pool.answer moments = some s) : Scanned pool calls moments k s := by
  obtain ⟨q, hq, hleads⟩ := leads_acquire hk hrun
  have hscans : Scans 0 pool.length (Interleaving.exchangesOf s.history k) q := by
    simpa using scans_acquire hleads
  have hpassed : ∀ i < pool.length, PassesOver i (Interleaving.exchangesOf s.history k) →
      SeesUsedUp pool calls moments k i := fun i hi h => seesUsedUp_of_passesOver hrun hi h
  have hexhausted : s.programs[k]? = some (.done none) → ∀ i < pool.length, SeesUsedUp pool calls moments k i := by
    intro hend i hi
    cases hq.symm.trans hend
    exact hpassed i hi (hscans.passed rfl i (Nat.zero_le i) (by omega))
  have hbefore : ∀ l, s.programs[k]? = some (.done (some l)) → l.index < pool.length ∧
      ∀ i < l.index, SeesUsedUp pool calls moments k i := by
    intro l hend
    cases hq.symm.trans hend
    obtain ⟨-, hlt, hover⟩ := hscans.leased l rfl
    exact ⟨by omega, fun i hi => hpassed i (by omega) (hover i (Nat.zero_le i) hi)⟩
  have hkept : ∀ i, (∀ r o t, Requests pool calls moments k r o t → 0 < remaining t.world i) →
      ¬ SeesUsedUp pool calls moments k i := by
    rintro i hpos ⟨o, t, c, hrequests, hc, hused⟩
    have := hpos _ o t hrequests
    simp [remaining, hc, hused] at this
  refine ⟨hexhausted, hbefore, ?_, ?_, ?_, ?_, ?_⟩
  · intro i hi hpos a hend
    cases a with
    | none => exact absurd (hexhausted hend i hi) (hkept i hpos)
    | some l =>
      refine ⟨l, rfl, Nat.le_of_not_lt fun hlt => ?_⟩
      exact hkept i hpos ((hbefore l hend).2 i hlt)
  · cases q with
    | done a => exact Or.inl ⟨a, hq⟩
    | ask r next =>
      refine Or.inr fun o => ?_
      rw [Option.isSome_iff_exists]
      exact ⟨_, Interleaving.step?_eq_some.2 ⟨r, next, hq, rfl⟩⟩
  · simpa using within_acquire _ _ _ hleads
  · intro before token o after t next _ ht hnext
    exact probed_of_moment hk ht hnext
  · exact fun i => countP_probedAfter_le hscans.inOrder

/-- a credential that is used up, and one with a single unit left -/
def lastUnit : Pool := [usedUp, ⟨"ghp_other", ⟨1, .epoch⟩⟩]

/-- GitHub does not reply in time -/
def silent : Outside := { replying 0 with quota := .error .timedOut }

/-- of two calls, the second reserves the unit while the first waits for GitHub -/
def overtaken : List (Nat × Outside) := [0, 0, 0, 1, 1, 1, 1, 0, 0, 0, 0, 0].map (·, silent)

theorem scanned_overtaken : ∃ s, (PoolCall.start lastUnit [.acquire, .acquire]).run? Pool.answer overtaken = some s ∧
    s.programs[0]? = some (.done none) ∧ s.programs[1]? = some (.done (some ⟨1, "ghp_other"⟩)) ∧
    Scanned lastUnit [.acquire, .acquire] overtaken 0 s := ⟨_, rfl, rfl, rfl, scanned_of_run rfl rfl⟩

end AccountStats.GitHub
