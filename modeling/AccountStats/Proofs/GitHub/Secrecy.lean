import Mathlib.Tactic
import AccountStats.Web.Health
import AccountStats.Proofs.GitHub.Twins
import AccountStats.Proofs.Sync.WithoutCache
/-
What may be seen of the tokens: their last four characters.

A session fills the pool from configured tokens and then serves any operations, one after another: leases, reports,
snapshots, health checks and fetches. Its partners reply however they like, without a look at the tokens; all that was
asked is kept. Two sessions whose tokens look alike are compared.

Results:
- `answer_alike`: one request keeps two worlds alike;
- `Twin.run`: so does a pair of twins, which come to related results;
- `operate_alike`: so does an operation, whose outcomes show the same;
- `tokens_hidden`: nothing that may be seen of a session tells its tokens from others that look alike.
-/
namespace AccountStats.GitHub

/-! ## Sessions -/

/-- GitHub, the clock, and whatever the handlers ask for besides; they reply however they like, with a state of their
own, whatever the token -/
structure Partners (σ : Type) where
  now : σ → Time.Instant × σ
  rateLimit : σ → Except ProbeError Quota × σ
  getUser : String → σ → Except CallError (Response User) × σ
  listRepositories : String → UInt32 → σ → Except CallError (Response (List ListedRepository)) × σ
  web : (r : Web.Ask) → σ → r.Reply × σ

/-- what has become of the partners and the pool, and all that was asked, in order -/
structure World (σ : Type) where
  partners : σ
  pool : Pool
  asked : List Ask

namespace World

variable {σ : Type}

/-- one request of a program on the GitHub side is answered -/
def answer (partners : Partners σ) (r : Ask) (w : World σ) : r.Reply × World σ :=
  let next := { w with asked := w.asked ++ [r] }
  match r with
  | .now => ((partners.now w.partners).1, { next with partners := (partners.now w.partners).2 })
  | .check i =>
    let (now, left) := partners.now w.partners
    ((w.pool.check i now).1, { next with partners := left, pool := (w.pool.check i now).2 })
  | .install i fresh => ((w.pool.install i fresh).1, { next with pool := (w.pool.install i fresh).2 })
  | .record i report => ((), { next with pool := w.pool.record i report })
  | .probe _ => ((partners.rateLimit w.partners).1, { next with partners := (partners.rateLimit w.partners).2 })
  | .getUser _ login =>
    ((partners.getUser login w.partners).1, { next with partners := (partners.getUser login w.partners).2 })
  | .listRepositories _ login page =>
    ((partners.listRepositories login page w.partners).1,
      { next with partners := (partners.listRepositories login page w.partners).2 })
  | .note _ => ((), next)

/-- one request of a handler is answered: the credentials are as they stand in the pool -/
def answerWeb (partners : Partners σ) (r : Web.Ask) (w : World σ) : r.Reply × World σ :=
  match r with
  | .credentials => (w.pool.statuses, w)
  | .sync .now => ((partners.now w.partners).1, { w with partners := (partners.now w.partners).2 })
  | .sync (.note n) => ((), { w with asked := w.asked ++ [.note n] })
  | r => ((partners.web r w.partners).1, { w with partners := (partners.web r w.partners).2 })

end World

/-- an operation on the pool and what stands on it -/
inductive Operation where
  | acquire
  /-- what a response reported, for one of the leases granted so far -/
  | record (lease : Nat) (report : QuotaReport)
  | snapshot
  | health
  | fetchAccount (username : String)

/-- what an operation comes to -/
inductive Outcome where
  | leased (l : Option Lease)
  | recorded
  | statuses (cs : List Pool.Status)
  | health (r : Web.Response)
  | fetched (r : Except Failure Snapshot)

/-- the world after some operations, and the leases granted so far -/
structure Session (σ : Type) where
  world : World σ
  leases : List Lease

namespace Session

variable {σ : Type}

/-- the pool filled from configured tokens -/
def connect (partners : Partners σ) (tokens : List String) (s : σ) : Session σ :=
  let (pool, world) := (connectPool tokens).run (World.answer partners) ⟨s, [], []⟩
  ⟨{ world with pool }, []⟩

def tokens (s : Session σ) : List String := s.world.pool.map Credential.token

def operate (partners : Partners σ) (s : Session σ) : Operation → Outcome × Session σ
  | .acquire =>
    let (l, world) := (acquire s.tokens).run (World.answer partners) s.world
    (.leased l, ⟨world, s.leases ++ l.toList⟩)
  | .record k report =>
    match s.leases[k]? with
    | some l => (.recorded, { s with world := ((ask (.record l.index report)).run (World.answer partners) s.world).2 })
    | none => (.recorded, s)
  | .snapshot => (.statuses s.world.pool.statuses, s)
  | .health =>
    let (r, world) := Web.healthHandler.run (World.answerWeb partners) s.world
    (.health r, { s with world })
  | .fetchAccount username =>
    let (r, world) := (fetchAccount s.tokens username).run (World.answer partners) s.world
    (.fetched r, { s with world })

/-- operations one after another, each with its outcome and what it leaves -/
def run (partners : Partners σ) (s : Session σ) : List Operation → List (Outcome × Session σ)
  | [] => []
  | op :: ops => s.operate partners op :: (s.operate partners op).2.run partners ops

end Session

/-! ## What may be seen -/

/-- a request with its token masked -/
def Ask.shown : Ask → Ask
  | .probe token => .probe (maskToken token)
  | .getUser token login => .getUser (maskToken token) login
  | .listRepositories token login page => .listRepositories (maskToken token) login page
  | r => r

def Ask.note? : Ask → Option Note
  | .note n => some n
  | _ => none

def Ask.isCall : Ask → Bool
  | .probe _ | .getUser .. | .listRepositories .. => true
  | _ => false

/-- all that was noted: warnings and counts among it -/
def World.journal {σ : Type} (w : World σ) : Journal := w.asked.filterMap Ask.note?

/-- the calls of GitHub, with the tokens that they passed -/
def World.calls {σ : Type} (w : World σ) : List Ask := w.asked.filter Ask.isCall

/-- a lease as it may be seen: the place of its credential, and the label -/
def Lease.shown (l : Lease) : Lease := ⟨l.index, l.label⟩

/-- an outcome as it may be seen -/
def Outcome.shown : Outcome → Outcome
  | .leased l => .leased (l.map Lease.shown)
  | r => r

/-- two sessions that nothing tells apart but the tokens passed to GitHub, and these look alike -/
structure Indistinguishable {σ : Type} (s s' : Session σ) : Prop where
  labels : s.world.pool.map Credential.label = s'.world.pool.map Credential.label
  dumps : s.world.pool.map Credential.dump = s'.world.pool.map Credential.dump
  statuses : s.world.pool.statuses = s'.world.pool.statuses
  leases : s.leases.map Lease.shown = s'.leases.map Lease.shown
  journal : s.world.journal = s'.world.journal
  calls : s.world.calls.map Ask.shown = s'.world.calls.map Ask.shown
  partners : s.world.partners = s'.world.partners

/-- an operation that nothing tells from another one: its outcome shows the same, and so does what it leaves -/
def SameToSee {σ : Type} (a b : Outcome × Session σ) : Prop := a.1.shown = b.1.shown ∧ Indistinguishable a.2 b.2

/-! ## Steps on pools that look alike -/

theorem rel_getElem? {α β : Type} {R : α → β → Prop} {l : List α} {l' : List β} (h : List.Forall₂ R l l') (i : Nat) :
    Option.Rel R l[i]? l'[i]? := by
  induction h generalizing i with
  | nil => exact .none
  | cons h _ ih =>
    cases i with
    | zero => exact .some h
    | succ i => exact ih i

section Pools

variable {p q : Pool} {c d : Credential} {i : Nat}

theorem statuses_set (p : Pool) (i : Nat) (c : Credential) :
    Pool.statuses (p.set i c) = p.statuses.set i c.status := List.map_set

theorem status_withQuota (h : c.status = d.status) (quota : Quota) :
    Credential.status { c with quota } = Credential.status { d with quota } :=
  congrArg (Pool.Status.mk · quota) (congrArg Pool.Status.label h)

theorem statuses_set_congr (h : p.statuses = q.statuses) (hcd : c.status = d.status) :
    Pool.statuses (p.set i c) = Pool.statuses (q.set i d) := by
  rw [statuses_set, statuses_set, h, hcd]

theorem forall₂_status (h : p.statuses = q.statuses) : List.Forall₂ (fun c d => c.status = d.status) p q := by
  have hmap : p.map Credential.status = q.map Credential.status := h
  rwa [← List.forall₂_eq_eq_eq, List.forall₂_map_left_iff, List.forall₂_map_right_iff] at hmap

/-- at each place both have a credential with the same status, or none has one -/
theorem getElem?_alike (h : p.statuses = q.statuses) (i : Nat) :
    Option.Rel (fun c d => c.status = d.status) p[i]? q[i]? := rel_getElem? (forall₂_status h) i

theorem checkCredential_alike (h : c.status = d.status) (now : Time.Instant) :
    (Pool.checkCredential c now).1 = (Pool.checkCredential d now).1 ∧
      (Pool.checkCredential c now).2.status = (Pool.checkCredential d now).2.status := by
  have hquota : c.quota = d.quota := congrArg Pool.Status.quota h
  rw [Pool.checkCredential, Pool.checkCredential, hquota]
  split_ifs
  · exact ⟨rfl, status_withQuota h _⟩
  · exact ⟨rfl, h⟩
  · exact ⟨rfl, h⟩

theorem check_alike (h : p.statuses = q.statuses) (i : Nat) (now : Time.Instant) :
    (p.check i now).1 = (q.check i now).1 ∧ (p.check i now).2.statuses = (q.check i now).2.statuses := by
  unfold Pool.check
  have hi := getElem?_alike h i
  generalize p[i]? = c, q[i]? = d at hi ⊢
  cases hi with
  | none => exact ⟨rfl, h⟩
  | some hcd =>
    obtain ⟨hanswer, hleft⟩ := checkCredential_alike hcd now
    exact ⟨hanswer, statuses_set_congr h hleft⟩

theorem install_alike (h : p.statuses = q.statuses) (i : Nat) (fresh : Quota) :
    (p.install i fresh).1 = (q.install i fresh).1 ∧
      (p.install i fresh).2.statuses = (q.install i fresh).2.statuses := by
  unfold Pool.install
  have hi := getElem?_alike h i
  generalize p[i]? = c, q[i]? = d at hi ⊢
  cases hi with
  | none => exact ⟨rfl, h⟩
  | some hcd =>
    dsimp only
    split_ifs
    · exact ⟨rfl, statuses_set_congr h (status_withQuota hcd _)⟩
    · exact ⟨rfl, statuses_set_congr h (status_withQuota hcd _)⟩

theorem record_alike (h : p.statuses = q.statuses) (i : Nat) (report : QuotaReport) :
    (p.record i report).statuses = (q.record i report).statuses := by
  unfold Pool.record
  have hi := getElem?_alike h i
  generalize p[i]? = c, q[i]? = d at hi ⊢
  cases hi with
  | none => exact h
  | @some c d hcd =>
    have hquota : c.quota = d.quota := congrArg Pool.Status.quota hcd
    dsimp only
    rw [hquota]
    exact statuses_set_congr h (status_withQuota hcd _)

theorem sameMask_tokens (h : p.statuses = q.statuses) :
    List.Forall₂ SameMask (p.map Credential.token) (q.map Credential.token) := by
  rw [List.forall₂_map_left_iff, List.forall₂_map_right_iff]
  exact (forall₂_status h).imp fun c d hcd => congrArg Pool.Status.label hcd

/-- what is said of a credential by its status is the same in both -/
theorem map_eq_of_statuses {γ : Type} {f : Credential → γ} (hf : ∀ c d, c.status = d.status → f c = f d)
    (h : p.statuses = q.statuses) : p.map f = q.map f := by
  rw [← List.forall₂_eq_eq_eq, List.forall₂_map_left_iff, List.forall₂_map_right_iff]
  exact (forall₂_status h).imp hf

end Pools

/-! ## Requests -/

section Requests

variable {σ α β : Type} (partners : Partners σ) {w v : World σ}

/-- two worlds in which the same has happened but for tokens, and those look alike -/
structure World.Alike (w v : World σ) : Prop where
  partners : w.partners = v.partners
  statuses : w.pool.statuses = v.pool.statuses
  asked : w.asked.map Ask.shown = v.asked.map Ask.shown

theorem Ask.Twin.shown {r r' : Ask} {reply : r.Reply → r'.Reply} (h : r.Twin r' reply) : r.shown = r'.shown := by
  cases h with
  | same r => rfl
  | probe h => exact congrArg Ask.probe h
  | getUser h login => exact congrArg (Ask.getUser · login) h
  | listRepositories h login page => exact congrArg (Ask.listRepositories · login page) h

theorem asked_answer (r : Ask) (w : World σ) : (w.answer partners r).2.asked = w.asked ++ [r] := by
  cases r <;> rfl

/-- **Twin requests are replied to alike, and leave worlds that are alike.** -/
theorem answer_alike {r r' : Ask} {reply : r.Reply → r'.Reply} (hr : r.Twin r' reply) (h : w.Alike v) :
    reply (w.answer partners r).1 = (v.answer partners r').1 ∧
      (w.answer partners r).2.Alike (v.answer partners r').2 := by
  have hasked : (w.answer partners r).2.asked.map Ask.shown = (v.answer partners r').2.asked.map Ask.shown := by
    rw [asked_answer, asked_answer, List.map_append, List.map_append, h.asked, List.map_singleton,
      List.map_singleton, hr.shown]
  obtain ⟨state, p, asked⟩ := w
  obtain ⟨state', q, asked'⟩ := v
  obtain ⟨rfl, hpool, -⟩ := h
  cases hr with
  | probe ht => exact ⟨rfl, rfl, hpool, hasked⟩
  | getUser ht login => exact ⟨rfl, rfl, hpool, hasked⟩
  | listRepositories ht login page => exact ⟨rfl, rfl, hpool, hasked⟩
  | same =>
    cases r with
    | check i =>
      obtain ⟨hanswer, hleft⟩ := check_alike hpool i (partners.now state).1
      exact ⟨hanswer, rfl, hleft, hasked⟩
    | install i fresh =>
      obtain ⟨hanswer, hleft⟩ := install_alike hpool i fresh
      exact ⟨hanswer, rfl, hleft, hasked⟩
    | record i report => exact ⟨rfl, rfl, record_alike hpool i report, hasked⟩
    | _ => exact ⟨rfl, rfl, hpool, hasked⟩

/-- **Twins come to related results in worlds that are alike, and leave them alike.** -/
theorem Twin.run {R : α → β → Prop} {p : Program Calls α} {q : Program Calls β} (hpq : Twin R p q)
    (h : w.Alike v) : R (p.run (World.answer partners) w).1 (q.run (World.answer partners) v).1 ∧
      (p.run (World.answer partners) w).2.Alike (q.run (World.answer partners) v).2 := by
  induction hpq generalizing w v with
  | done hab => exact ⟨hab, h⟩
  | @ask r r' reply next next' hr _ ih =>
    obtain ⟨hreply, hleft⟩ := answer_alike partners hr h
    have hnext := ih (w.answer partners r).1 hleft
    -- the reply to the one serves as the reply to the other, so both go on as twins do
    rw [hreply] at hnext
    exact hnext

theorem answerWeb_alike (r : Web.Ask) (h : w.Alike v) :
    (w.answerWeb partners r).1 = (v.answerWeb partners r).1 ∧
      (w.answerWeb partners r).2.Alike (v.answerWeb partners r).2 := by
  have hasked := h.asked
  obtain ⟨state, p, asked⟩ := w
  obtain ⟨state', q, asked'⟩ := v
  obtain ⟨rfl, hpool, -⟩ := h
  cases r with
  | credentials => exact ⟨hpool, rfl, hpool, hasked⟩
  | sync r =>
    cases r with
    | note n =>
      refine ⟨rfl, rfl, hpool, ?_⟩
      rw [World.answerWeb, World.answerWeb, List.map_append, List.map_append, hasked]
    | _ => exact ⟨rfl, rfl, hpool, hasked⟩
  | _ => exact ⟨rfl, rfl, hpool, hasked⟩

/-- what a handler comes to does not depend on the tokens -/
theorem runWeb_alike (p : Program Web.Calls α) (h : w.Alike v) :
    (p.run (World.answerWeb partners) w).1 = (p.run (World.answerWeb partners) v).1 ∧
      (p.run (World.answerWeb partners) w).2.Alike (p.run (World.answerWeb partners) v).2 := by
  induction p generalizing w v with
  | done a => exact ⟨rfl, h⟩
  | ask r next ih =>
    obtain ⟨hreply, hleft⟩ := answerWeb_alike partners r h
    have hnext : (Program.ask r next).run (World.answerWeb partners) v =
        (next (w.answerWeb partners r).1).run (World.answerWeb partners) (v.answerWeb partners r).2 := by
      rw [hreply]
      rfl
    rw [hnext]
    exact ih _ hleft

end Requests

/-! ## Operations -/

section Operations

variable {σ : Type} (partners : Partners σ) {s s' : Session σ}

/-- two sessions in which the same has happened but for tokens, with leases on the same credentials -/
structure Session.Alike (s s' : Session σ) : Prop where
  world : s.world.Alike s'.world
  leases : List.Forall₂ SameLease s.leases s'.leases

theorem connect_alike (start : σ) {tokens tokens' : List String}
    (h : List.Forall₂ LookAlike tokens tokens') :
    (Session.connect partners tokens start).Alike (Session.connect partners tokens' start) := by
  have hstart : World.Alike (⟨start, [], []⟩ : World σ) ⟨start, [], []⟩ := ⟨rfl, rfl, rfl⟩
  obtain ⟨hpool, hleft⟩ := (twin_connectPool h).run partners hstart
  exact ⟨⟨hleft.partners, hpool, hleft.asked⟩, .nil⟩

theorem tokens_alike (h : s.Alike s') : List.Forall₂ SameMask s.tokens s'.tokens := sameMask_tokens h.world.statuses

theorem SameLease.shown {l l' : Lease} (h : SameLease l l') : l.shown = l'.shown := by
  rw [Lease.shown, Lease.shown, Lease.label, Lease.label, h.index, h.token]

theorem map_shown {l l' : Option Lease} (h : Option.Rel SameLease l l') : l.map Lease.shown = l'.map Lease.shown := by
  cases h with
  | none => rfl
  | some h => exact congrArg some h.shown

theorem sameLease_toList {l l' : Option Lease} (h : Option.Rel SameLease l l') :
    List.Forall₂ SameLease l.toList l'.toList := by
  cases h with
  | none => exact .nil
  | some h => exact .cons h .nil

/-- **An operation comes to the same as far as may be seen, and leaves sessions that are alike.** -/
theorem operate_alike (op : Operation) (h : s.Alike s') :
    (s.operate partners op).1.shown = (s'.operate partners op).1.shown ∧
      (s.operate partners op).2.Alike (s'.operate partners op).2 := by
  cases op with
  | acquire =>
    obtain ⟨hlease, hleft⟩ := (twin_acquire (tokens_alike h)).run partners h.world
    exact ⟨congrArg Outcome.leased (map_shown hlease), hleft, List.rel_append h.leases (sameLease_toList hlease)⟩
  | record k report =>
    rw [Session.operate, Session.operate]
    have hk := rel_getElem? h.leases k
    generalize s.leases[k]? = l, s'.leases[k]? = l' at hk ⊢
    cases hk with
    | none => exact ⟨rfl, h⟩
    | some hl =>
      dsimp only
      rw [hl.index]
      exact ⟨rfl, (answer_alike partners (.same _) h.world).2, h.leases⟩
  | snapshot => exact ⟨congrArg Outcome.statuses h.world.statuses, h⟩
  | health =>
    obtain ⟨hresponse, hleft⟩ := runWeb_alike partners Web.healthHandler h.world
    exact ⟨congrArg Outcome.health hresponse, hleft, h.leases⟩
  | fetchAccount username =>
    obtain ⟨hresult, hleft⟩ := (twin_fetchAccount (tokens_alike h) username).run partners h.world
    exact ⟨congrArg Outcome.fetched hresult, hleft, h.leases⟩

theorem run_alike (ops : List Operation) (h : s.Alike s') :
    List.Forall₂ (fun a b => a.1.shown = b.1.shown ∧ a.2.Alike b.2) (s.run partners ops) (s'.run partners ops) := by
  induction ops generalizing s s' with
  | nil => exact .nil
  | cons op ops ih =>
    have hop := operate_alike partners op h
    exact .cons hop (ih hop.2)

end Operations

/-! ## Tokens that nothing tells apart -/

section Secrecy

variable {σ : Type} {s s' : Session σ}

theorem dump_congr {c d : Credential} (h : c.status = d.status) : c.dump = d.dump := by
  have hlabel : c.label = d.label := congrArg Pool.Status.label h
  unfold Credential.dump
  rw [hlabel]

/-- masks are put on calls, not on notes: what was noted shows as it is -/
theorem World.journal_eq (w : World σ) : w.journal = (w.asked.map Ask.shown).filterMap Ask.note? := by
  have hsame : Ask.note? ∘ Ask.shown = Ask.note? := by
    funext r
    cases r <;> rfl
  rw [World.journal, List.filterMap_map, hsame]

theorem World.calls_eq (w : World σ) : w.calls.map Ask.shown = (w.asked.map Ask.shown).filter Ask.isCall := by
  have hsame : Ask.isCall ∘ Ask.shown = Ask.isCall := by
    funext r
    cases r <;> rfl
  rw [World.calls, List.filter_map, hsame]

theorem Session.Alike.indistinguishable (h : s.Alike s') : Indistinguishable s s' where
  labels := map_eq_of_statuses (fun _ _ hcd => congrArg Pool.Status.label hcd) h.world.statuses
  dumps := map_eq_of_statuses (fun _ _ hcd => dump_congr hcd) h.world.statuses
  statuses := h.world.statuses
  leases := by
    rw [← List.forall₂_eq_eq_eq, List.forall₂_map_left_iff, List.forall₂_map_right_iff]
    exact h.leases.imp fun _ _ hl => hl.shown
  journal := by rw [World.journal_eq, World.journal_eq, h.world.asked]
  calls := by rw [World.calls_eq, World.calls_eq, h.world.asked]
  partners := h.world.partners

/-- **Tokens stay hidden.** Two sessions that start from tokens which look alike, position by position, and are replied
to in the same way come to the same after the start and after every operation: the same labels, dumps, quotas, notes
and outcomes. Only the tokens passed to GitHub differ. -/
theorem tokens_hidden (partners : Partners σ) (ops : List Operation) (start : σ) {tokens tokens' : List String}
    (h : List.Forall₂ LookAlike tokens tokens') :
    Indistinguishable (Session.connect partners tokens start) (Session.connect partners tokens' start) ∧
      List.Forall₂ SameToSee ((Session.connect partners tokens start).run partners ops)
        ((Session.connect partners tokens' start).run partners ops) := by
  have hconnect := connect_alike partners start h
  refine ⟨hconnect.indistinguishable, (run_alike partners ops hconnect).imp ?_⟩
  rintro a b ⟨hshown, hleft⟩
  exact ⟨hshown, hleft.indistinguishable⟩

end Secrecy

/-- a GitHub that replies to nothing but probes, beside a service that works -/
def quotaOnly : Partners (Sync.Session (List Snapshot) Unit) where
  now s := (.epoch, s)
  rateLimit s := (.ok ⟨2, .epoch⟩, s)
  getUser _ s := (.error .timeout, s)
  listRepositories _ _ s := (.error .timeout, s)
  web
    | .sync r, s => s.answer Sync.keepers .none (fun _ => .epoch) r
    | .pingDatabase, s => (.ok (), s)
    | .cacheHealthy, s => (true, s)
    | .credentials, s => ([], s)

/-- a token within blanks, no token at all, and one with fewer than four characters: the calls differ, and no more -/
theorem tokens_hidden_short :
    let tokens := ["ghp_left1a2b", "  ", "é€z"]
    let tokens' := ["\tghp_right1a2b ", "", "é€z\n"]
    let ops : List Operation := [.acquire, .record 0 ⟨some 0, none⟩, .snapshot, .health, .fetchAccount "ann"]
    let start : Sync.Session (List Snapshot) Unit := ⟨[], .init .standard, (), []⟩
    let one := Session.connect quotaOnly tokens start
    let other := Session.connect quotaOnly tokens' start
    List.Forall₂ LookAlike tokens tokens' ∧ one.world.calls ≠ other.world.calls ∧ Indistinguishable one other ∧
      List.Forall₂ SameToSee (one.run quotaOnly ops) (other.run quotaOnly ops) := by
  have hlong : LookAlike "ghp_left1a2b" "\tghp_right1a2b " := ⟨by decide +kernel, by decide +kernel⟩
  have hblank : LookAlike "  " "" := ⟨by decide +kernel, by decide +kernel⟩
  have hshort : LookAlike "é€z" "é€z\n" := ⟨by decide +kernel, by decide +kernel⟩
  have hall := List.Forall₂.cons hlong (.cons hblank (.cons hshort .nil))
  exact ⟨hall, by decide +kernel, tokens_hidden quotaOnly _ _ hall⟩

end AccountStats.GitHub
