import Mathlib.Tactic
import AccountStats.Proofs.Sweep.Order
/-
Where every job of a sweep is.

A listed job is not queued yet, queued, with a worker that synchronizes it, in a report that a worker has to send, or
sent on one of the streams. `Accounts` says so for any run, and `Whole` says that as long as nobody cancels no job is
dropped. Results:
- `accounts_of_run`: every run keeps its accounts;
- `whole_of_run`: a run that nobody cancels drops nothing;
- `begun_of_cancelled`: once the sweep is cancelled, no worker takes another job.
-/
namespace AccountStats.Sweep

variable {I : Interface} {σ : Type} {plan : Plan I} {answer : (r : I.Request) → σ → I.Reply r × σ}
  {s t u : State I σ} {op : Op} {ops : List Op}

open State

/-! ## Where jobs are -/

/-- the jobs that a sweep is to do, in the order of the listing -/
def Plan.jobs (plan : Plan I) : List Job :=
  match plan.listing with
  | .ok usernames => jobsOf usernames
  | .error _ => []

namespace Worker

def job? : Worker I → Option Job
  | .syncing job _ => some job
  | _ => none

def report? : Worker I → Option Report
  | .reporting report => some report
  | _ => none

end Worker

namespace Report

/-- the item for the stream of refreshed accounts, if the report is one of success -/
def refreshed? : Report → Option Job
  | ⟨job, .ok ()⟩ => some job
  | ⟨_, .error _⟩ => none

/-- the item for the stream of problems, if the report is one of failure -/
def problem? : Report → Option Notice
  | ⟨_, .ok ()⟩ => none
  | ⟨job, .error cause⟩ => some (.account job cause)

end Report

namespace Worker

/-- jobs that the workers synchronize -/
def inFlight (ws : List (Worker I)) : List Job := ws.filterMap job?

/-- items that the workers have to send on the stream of refreshed accounts -/
def unsentRefreshed (ws : List (Worker I)) : List Job := ws.filterMap fun w => w.report?.bind Report.refreshed?

/-- items that the workers have to send on the stream of problems -/
def unsentProblems (ws : List (Worker I)) : List Notice := ws.filterMap fun w => w.report?.bind Report.problem?

end Worker

namespace Notice

def isAccount : Notice → Bool
  | .listing _ => false
  | .account .. => true

def listing? : Notice → Option Failure
  | .listing cause => some cause
  | .account .. => none

end Notice

namespace Producer

/-- jobs that are still to be queued -/
def unqueued (plan : Plan I) : Producer → List Job
  | .listing => plan.jobs
  | .queueing job rest => job :: rest
  | .reporting _ | .stopped => []

@[simp] theorem unqueued_listing (plan : Plan I) : listing.unqueued plan = plan.jobs := rfl

@[simp] theorem unqueued_queueing (plan : Plan I) (job : Job) (rest : List Job) :
    (queueing job rest).unqueued plan = job :: rest := rfl

@[simp] theorem unqueued_reporting (plan : Plan I) (f : Failure) : (reporting f).unqueued plan = [] := rfl

@[simp] theorem unqueued_stopped (plan : Plan I) : stopped.unqueued plan = [] := rfl

theorem ofJobs_ne_reporting (js : List Job) (f : Failure) : ofJobs js ≠ .reporting f := by
  cases js <;> simp [ofJobs]

@[simp] theorem unqueued_ofJobs (plan : Plan I) (js : List Job) : (ofJobs js).unqueued plan = js := by
  cases js <;> rfl

end Producer

namespace State

/-- all jobs that were taken, that are queued and that are still to be queued, in this order -/
def line (plan : Plan I) (s : State I σ) : List Job := s.begun ++ s.jobs ++ s.producer.unqueued plan

/-- what was sent on the stream of problems about the listing -/
def listings (s : State I σ) : List Failure := s.sentProblems.filterMap Notice.listing?

end State

/-! ## Moving items between lists -/

section Moves

variable {α β : Type} {xs : List α} {i : Nat} {x y : α} {b : β} {f : α → Option β} {all done opened opened' : List β}

/-- the lists before and after one worker changed differ in that worker only -/
theorem set_perm (h : xs[i]? = some x) : ∃ rest, xs.Perm (x :: rest) ∧ ∀ y, (xs.set i y).Perm (y :: rest) := by
  obtain ⟨hi, rfl⟩ := List.getElem?_eq_some_iff.1 h
  refine ⟨xs.eraseIdx i, (List.getElem_cons_eraseIdx_perm hi).symm, fun y => ?_⟩
  have hy := (List.getElem_cons_eraseIdx_perm (l := xs.set i y) (n := i) (by simpa using hi)).symm
  rwa [List.getElem_set_self, List.eraseIdx_set_eq] at hy

theorem filterMap_set_perm (f : α → Option β) (h : xs[i]? = some x) :
    ∃ rest, (xs.filterMap f).Perm ((f x).toList ++ rest) ∧
      ∀ y, ((xs.set i y).filterMap f).Perm ((f y).toList ++ rest) := by
  obtain ⟨rest, hold, hnew⟩ := set_perm h
  have hcons : ∀ y, (y :: rest).filterMap f = (f y).toList ++ rest.filterMap f := fun y => by
    cases hy : f y <;> simp [hy]
  exact ⟨rest.filterMap f, hcons x ▸ hold.filterMap f, fun y => hcons y ▸ (hnew y).filterMap f⟩

theorem filterMap_set_same (h : xs[i]? = some x) (hxy : f y = f x) :
    (xs.filterMap f).Perm ((xs.set i y).filterMap f) := by
  obtain ⟨rest, hold, hnew⟩ := filterMap_set_perm f h
  exact hold.trans (hxy ▸ (hnew y).symm)

theorem filterMap_set_open (h : xs[i]? = some x) (hx : f x = none) (hy : f y = some b) :
    ((xs.set i y).filterMap f).Perm (b :: xs.filterMap f) := by
  obtain ⟨rest, hold, hnew⟩ := filterMap_set_perm f h
  rw [hx] at hold
  have hnew := hnew y
  rw [hy] at hnew
  exact hnew.trans (hold.symm.cons b)

theorem filterMap_set_close (h : xs[i]? = some x) (hx : f x = some b) (hy : f y = none) :
    (xs.filterMap f).Perm (b :: (xs.set i y).filterMap f) := by
  obtain ⟨rest, hold, hnew⟩ := filterMap_set_perm f h
  rw [hx] at hold
  have hnew := hnew y
  rw [hy] at hnew
  exact hold.trans (hnew.symm.cons b)

/-- a new item goes to the open ones -/
theorem perm_open (h : all.Perm (done ++ opened)) (ho : opened'.Perm (b :: opened)) :
    (all ++ [b]).Perm (done ++ opened') :=
  calc (all ++ [b]).Perm (b :: all) := List.perm_append_singleton b all
    _ |>.Perm (b :: (done ++ opened)) := h.cons b
    _ |>.Perm (done ++ b :: opened) := List.perm_middle.symm
    _ |>.Perm (done ++ opened') := ho.symm.append_left done

/-- an open item is done -/
theorem perm_close (h : all.Perm (done ++ opened)) (ho : opened.Perm (b :: opened')) :
    all.Perm ((done ++ [b]) ++ opened') := by
  rw [List.append_assoc]
  exact h.trans (ho.append_left done)

end Moves

/-! ## What one step does to each account -/

/-- a step leaves the line of jobs as it is, or the producer gives up what is still to be queued -/
theorem step_line (h : Step plan answer s op t) :
    t.line plan = s.line plan ∨
      (s.cancelled = true ∨ s.abandoned = true) ∧ s.producer ≠ .stopped ∧ t.line plan = s.begun ++ s.jobs := by
  cases h with
  | quit hc hp => exact Or.inr ⟨Or.inl hc, hp, by simp [line]⟩
  | list us hp hc hl => exact Or.inl (by simp [line, hp, Plan.jobs, hl])
  | listFails f hp hc hl => exact Or.inl (by simp [line, hp, Plan.jobs, hl])
  | queue job rest hp hc ha room => exact Or.inl (by simp [line, hp])
  | queueFails job rest hp hc ha => exact Or.inr ⟨Or.inr ha, by simp [hp], by simp [line]⟩
  | report f hp hc hw room => exact Or.inl (by simp [line, hp])
  | reportFails f hp hc hw => exact Or.inl (by simp [line, hp])
  | take i job rest hh hc hj => exact Or.inl (by simp [line, hj, setWorker])
  | _ => exact Or.inl rfl

/-- a step says something about the listing only if the producer failed to list and nobody cancelled -/
theorem step_listings (h : Step plan answer s op t) :
    t.listings = s.listings ∨
      ∃ f, s.producer = .reporting f ∧ s.cancelled = false ∧ t.producer = .stopped ∧
        t.listings = s.listings ++ [f] := by
  cases h with
  | report f hp hc hw room =>
    exact Or.inr ⟨f, hp, hc, rfl, by simp [listings, sentProblems, Notice.listing?]⟩
  | deliverProblem i job cause hi hw room =>
    exact Or.inl (by simp [listings, sentProblems, Notice.listing?, setWorker])
  | takeProblem notice rest he hr => exact Or.inl (by simp [listings, sentProblems, hr])
  | _ => exact Or.inl rfl

/-! ## Accounts -/

/-- what is left of a program after some exchanges -/
def LeftOf (p q : Program I (Except Failure Unit)) : Prop :=
  ∃ es, ∀ fs a, q.Runs fs a → p.Runs (es ++ fs) a

/-- a report tells what the synchronization of its job came to -/
def Report.Genuine (plan : Plan I) (r : Report) : Prop :=
  ∃ es, (plan.resync r.job.username plan.config.ttl).Runs es r.outcome

/-- every job is in its place, and every report is of what happened -/
structure Accounts (plan : Plan I) (s : State I σ) : Prop where
  /-- jobs are taken in the order of the listing -/
  line : s.line plan <+: plan.jobs
  /-- a job that was taken is in flight or finished -/
  begun : s.begun.Perm (s.finished.map Report.job ++ Worker.inFlight s.workers)
  /-- a report of success is sent, or a worker has it -/
  refreshed : (s.finished.filterMap Report.refreshed?).Perm (s.sentRefreshed ++ Worker.unsentRefreshed s.workers)
  /-- and so is one of failure -/
  problems : (s.finished.filterMap Report.problem?).Perm
    (s.sentProblems.filter Notice.isAccount ++ Worker.unsentProblems s.workers)
  running : ∀ job p, .syncing job p ∈ s.workers → LeftOf (plan.resync job.username plan.config.ttl) p
  genuine : ∀ r ∈ s.finished, r.Genuine plan
  /-- only a listing that failed is reported -/
  failed : ∀ f, s.producer = .reporting f → plan.listing = .error f
  listings : s.listings = [] ∨ s.producer = .stopped ∧ ∃ f, plan.listing = .error f ∧ s.listings = [f]

theorem accounts_init (plan : Plan I) (world : σ) (cancelled : Bool) : Accounts plan (init plan world cancelled) := by
  constructor <;> simp [init, State.line, Worker.inFlight, sentRefreshed, sentProblems, Worker.unsentRefreshed,
    Worker.unsentProblems, State.listings, List.filterMap_replicate, Worker.job?, Worker.report?]

theorem step_begun_perm (hs : Orderly plan s)
    (ha : s.begun.Perm (s.finished.map Report.job ++ Worker.inFlight s.workers)) (h : Step plan answer s op t) :
    t.begun.Perm (t.finished.map Report.job ++ Worker.inFlight t.workers) := by
  cases h with
  | take i job rest hh hc hj => exact perm_open ha (filterMap_set_open (hs.holder i hh) rfl rfl)
  | retire i hh h => exact ha.trans ((filterMap_set_same (hs.holder i hh) (by rfl)).append_left _)
  | request i job r next hi => exact ha.trans ((filterMap_set_same hi (by rfl)).append_left _)
  | finish i job outcome hi =>
    have hclose := perm_close ha (filterMap_set_close (y := Worker.reporting ⟨job, outcome⟩) hi rfl rfl)
    simpa [Worker.inFlight, setWorker] using hclose
  | deliverRefreshed i job hi hw room => exact ha.trans ((filterMap_set_same hi (by rfl)).append_left _)
  | refreshedFails i job hi hw => exact ha.trans ((filterMap_set_same hi (by rfl)).append_left _)
  | deliverProblem i job cause hi hw room => exact ha.trans ((filterMap_set_same hi (by rfl)).append_left _)
  | problemFails i job cause hi hw => exact ha.trans ((filterMap_set_same hi (by rfl)).append_left _)
  | _ => exact ha

theorem step_refreshed_perm (hs : Orderly plan s)
    (ha : (s.finished.filterMap Report.refreshed?).Perm (s.sentRefreshed ++ Worker.unsentRefreshed s.workers))
    (h : Step plan answer s op t) :
    (t.finished.filterMap Report.refreshed?).Perm (t.sentRefreshed ++ Worker.unsentRefreshed t.workers) := by
  cases h with
  | take i job rest hh hc hj => exact ha.trans ((filterMap_set_same (hs.holder i hh) (by rfl)).append_left _)
  | retire i hh h => exact ha.trans ((filterMap_set_same (hs.holder i hh) (by rfl)).append_left _)
  | request i job r next hi => exact ha.trans ((filterMap_set_same hi (by rfl)).append_left _)
  | finish i job outcome hi =>
    cases outcome with
    | ok a =>
      rw [List.filterMap_append]
      exact perm_open ha (filterMap_set_open hi (by rfl) (by rfl))
    | error cause =>
      simp only [List.filterMap_append, List.filterMap_cons, Report.refreshed?, List.filterMap_nil, List.append_nil]
      exact ha.trans ((filterMap_set_same hi (by rfl)).append_left _)
  | deliverRefreshed i job hi hw room =>
    have hclose := perm_close ha (filterMap_set_close (y := Worker.free) hi (by rfl) (by rfl))
    simpa [sentRefreshed, Worker.unsentRefreshed, setWorker] using hclose
  | refreshedFails i job hi hw => rw [hs.wantsRefreshed] at hw; cases hw
  | deliverProblem i job cause hi hw room => exact ha.trans ((filterMap_set_same hi (by rfl)).append_left _)
  | problemFails i job cause hi hw => exact ha.trans ((filterMap_set_same hi (by rfl)).append_left _)
  | takeRefreshed job rest he hr => simpa [sentRefreshed, hr] using ha
  | _ => exact ha

theorem step_problems_perm (hs : Orderly plan s)
    (ha : (s.finished.filterMap Report.problem?).Perm
      (s.sentProblems.filter Notice.isAccount ++ Worker.unsentProblems s.workers))
    (h : Step plan answer s op t) :
    (t.finished.filterMap Report.problem?).Perm
      (t.sentProblems.filter Notice.isAccount ++ Worker.unsentProblems t.workers) := by
  cases h with
  | report f hp hc hw room => simpa [sentProblems, Notice.isAccount] using ha
  | take i job rest hh hc hj => exact ha.trans ((filterMap_set_same (hs.holder i hh) (by rfl)).append_left _)
  | retire i hh h => exact ha.trans ((filterMap_set_same (hs.holder i hh) (by rfl)).append_left _)
  | request i job r next hi => exact ha.trans ((filterMap_set_same hi (by rfl)).append_left _)
  | finish i job outcome hi =>
    cases outcome with
    | ok a =>
      simp only [List.filterMap_append, List.filterMap_cons, Report.problem?, List.filterMap_nil, List.append_nil]
      exact ha.trans ((filterMap_set_same hi (by rfl)).append_left _)
    | error cause =>
      rw [List.filterMap_append]
      exact perm_open ha (filterMap_set_open hi (by rfl) (by rfl))
  | deliverRefreshed i job hi hw room => exact ha.trans ((filterMap_set_same hi (by rfl)).append_left _)
  | refreshedFails i job hi hw => exact ha.trans ((filterMap_set_same hi (by rfl)).append_left _)
  | deliverProblem i job cause hi hw room =>
    have hclose := perm_close ha (filterMap_set_close (y := Worker.free) hi (by rfl) (by rfl))
    simpa [sentProblems, Worker.unsentProblems, setWorker, Notice.isAccount, List.filter_cons] using hclose
  | problemFails i job cause hi hw => rw [hs.wantsProblems] at hw; cases hw
  | takeProblem notice rest he hr => simpa [sentProblems, hr] using ha
  | _ => exact ha

/-- a worker either was there before the step or is one of these -/
theorem step_workers (h : Step plan answer s op t) {job : Job}
    {p : Program I (Except Failure Unit)} (hw : .syncing job p ∈ t.workers) :
    .syncing job p ∈ s.workers ∨ p = plan.resync job.username plan.config.ttl ∨
      ∃ r next x, .syncing job (.ask r next) ∈ s.workers ∧ p = next x := by
  have hset : ∀ {i w}, .syncing job p ∈ s.workers.set i w → .syncing job p ∈ s.workers ∨ .syncing job p = w :=
    fun h => List.mem_or_eq_of_mem_set h
  cases h with
  | take i job' rest hh hc hj =>
    rcases hset hw with hw | hw
    · exact Or.inl hw
    · cases hw; exact Or.inr (Or.inl rfl)
  | retire i hh h => exact Or.inl ((hset hw).resolve_right (by simp))
  | request i job' r next hi =>
    rcases hset hw with hw | hw
    · exact Or.inl hw
    · cases hw; exact Or.inr (Or.inr ⟨r, next, _, List.mem_of_getElem? hi, rfl⟩)
  | finish i job' outcome hi => exact Or.inl ((hset hw).resolve_right (by simp))
  | deliverRefreshed i job' hi _ room => exact Or.inl ((hset hw).resolve_right (by simp))
  | refreshedFails i job' hi _ => exact Or.inl ((hset hw).resolve_right (by simp))
  | deliverProblem i job' cause hi _ room => exact Or.inl ((hset hw).resolve_right (by simp))
  | problemFails i job' cause hi _ => exact Or.inl ((hset hw).resolve_right (by simp))
  | _ => exact Or.inl hw

theorem LeftOf.refl (p : Program I (Except Failure Unit)) : LeftOf p p := ⟨[], fun _ _ h => h⟩

theorem LeftOf.reply {p : Program I (Except Failure Unit)} {r : I.Request}
    {next : I.Reply r → Program I (Except Failure Unit)} (h : LeftOf p (.ask r next)) (x : I.Reply r) :
    LeftOf p (next x) := by
  obtain ⟨es, h⟩ := h
  refine ⟨es ++ [⟨r, x⟩], fun fs a hq => ?_⟩
  rw [List.append_assoc]
  exact h _ a (.ask hq)

theorem LeftOf.done {p : Program I (Except Failure Unit)} {a : Except Failure Unit} (h : LeftOf p (.done a)) :
    ∃ es, p.Runs es a := by
  obtain ⟨es, h⟩ := h
  exact ⟨es ++ [], h [] a (.done a)⟩

theorem step_genuine (hs : Accounts plan s) (h : Step plan answer s op t) : ∀ r ∈ t.finished, r.Genuine plan := by
  cases h with
  | finish i job outcome hi =>
    intro r hr
    rcases List.mem_append.1 hr with hr | hr
    · exact hs.genuine r hr
    · cases List.mem_singleton.1 hr
      exact (hs.running job _ (List.mem_of_getElem? hi)).done
  | _ => exact hs.genuine

theorem step_failed (hs : Accounts plan s) (h : Step plan answer s op t) :
    ∀ f, t.producer = .reporting f → plan.listing = .error f := by
  cases h with
  | list us hp hc hl => exact fun f hf => absurd hf (Producer.ofJobs_ne_reporting _ f)
  | listFails f hp hc hl => intro g hg; cases hg; exact hl
  | queue job rest hp hc ha room => exact fun f hf => absurd hf (Producer.ofJobs_ne_reporting _ f)
  | quit hc hp => intro f hf; cases hf
  | queueFails job rest hp hc ha => intro f hf; cases hf
  | report f hp hc hw room => intro g hg; cases hg
  | reportFails f hp hc hw => intro g hg; cases hg
  | _ => exact hs.failed

/-- **A step keeps the accounts.** -/
theorem step_accounts (ho : Orderly plan s) (hs : Accounts plan s) (h : Step plan answer s op t) :
    Accounts plan t where
  line := by
    rcases step_line h with hl | ⟨-, -, hl⟩
    · exact hl ▸ hs.line
    · rw [hl]
      exact (List.prefix_append _ _).trans hs.line
  begun := step_begun_perm ho hs.begun h
  refreshed := step_refreshed_perm ho hs.refreshed h
  problems := step_problems_perm ho hs.problems h
  running job p hw := by
    rcases step_workers h hw with hw | rfl | ⟨r, next, x, hr, rfl⟩
    · exact hs.running job p hw
    · exact .refl _
    · exact (hs.running job _ hr).reply x
  genuine := step_genuine hs h
  failed := step_failed hs h
  listings := by
    rcases step_listings h with hl | ⟨f, hp, -, hp', hl⟩
    · rcases hs.listings with he | ⟨hp, f, hf, he⟩
      · exact Or.inl (hl.trans he)
      · exact Or.inr ⟨(step_stopped ho h).1 hp, f, hf, hl.trans he⟩
    · rcases hs.listings with he | ⟨hp'', -⟩
      · exact Or.inr ⟨hp', f, hs.failed f hp, by rw [hl, he, List.nil_append]⟩
      · rw [hp] at hp''; cases hp''

/-- every run of a sweep keeps its accounts, whenever it is cancelled -/
theorem accounts_of_run {world : σ} {cancelled : Bool}
    (hrun : (init plan world cancelled).run? plan answer ops = some s) : Accounts plan s := by
  have hall : Orderly plan s ∧ Accounts plan s :=
    run_preserves (P := fun s => Orderly plan s ∧ Accounts plan s)
      (fun _ _ _ _ h hs => ⟨step_orderly hs.1 h, step_accounts hs.1 hs.2 h⟩) hrun
      ⟨orderly_init plan world cancelled, accounts_init plan world cancelled⟩
  exact hall.2

/-! ## Sweeps that nobody cancels -/

/-- nothing is dropped -/
structure Whole (plan : Plan I) (s : State I σ) : Prop where
  cancelled : s.cancelled = false
  line : s.line plan = plan.jobs
  /-- a worker stops only when there is nothing left to take -/
  retired : ∀ w ∈ s.workers, w = .stopped → s.producer = .stopped ∧ s.jobs = []
  queueing : ∀ job rest, s.producer = .queueing job rest → ∃ us, plan.listing = .ok us
  /-- a listing that failed is reported -/
  reported : s.producer = .stopped → ∀ f, plan.listing = .error f → s.listings = [f]

theorem whole_init (plan : Plan I) (world : σ) : Whole plan (init plan world false) := by
  constructor <;> simp [init, State.line]

/-- somebody will take the jobs that are queued -/
theorem not_abandoned (hn : 0 < plan.config.concurrency) (ho : Orderly plan s) (hs : Whole plan s)
    (hp : s.producer ≠ .stopped) : s.abandoned = false := by
  rw [← Bool.not_eq_true, abandoned_iff]
  intro hall
  obtain ⟨w, hw⟩ := List.exists_mem_of_length_pos (ho.workers ▸ hn)
  exact hp (hs.retired w hw (hall w hw)).1

theorem step_retired (ho : Orderly plan s) (hs : Whole plan s) (h : Step plan answer s op t) :
    ∀ w ∈ t.workers, w = .stopped → t.producer = .stopped ∧ t.jobs = [] := by
  -- a worker that was not stopped before the step, and is no longer the same
  have hset : ∀ {i : Nat} {v : Worker I}, v ≠ .stopped → ∀ w ∈ s.workers.set i v, w = .stopped →
      s.producer = .stopped ∧ s.jobs = [] := fun hv w hw hws => by
    rcases List.mem_or_eq_of_mem_set hw with hw | hw
    · exact hs.retired w hw hws
    · exact absurd (hw.symm.trans hws) hv
  cases h with
  | quit hc hp => rw [hs.cancelled] at hc; cases hc
  | list us hp hc hl => exact fun w hw hws => absurd ((hs.retired w hw hws).1.symm.trans hp) (by simp)
  | listFails f hp hc hl => exact fun w hw hws => absurd ((hs.retired w hw hws).1.symm.trans hp) (by simp)
  | queue job rest hp hc ha room => exact fun w hw hws => absurd ((hs.retired w hw hws).1.symm.trans hp) (by simp)
  | queueFails job rest hp hc ha => exact fun w hw hws => ⟨rfl, (hs.retired w hw hws).2⟩
  | report f hp hc hw room => exact fun w hw hws => ⟨rfl, (hs.retired w hw hws).2⟩
  | reportFails f hp hc hw => exact fun w hw hws => ⟨rfl, (hs.retired w hw hws).2⟩
  | take i job rest hh hc hj =>
    intro w hw hws
    have hnil := (hset (by simp) w hw hws).2
    rw [hj] at hnil
    cases hnil
  | retire i hh h =>
    rcases h with hc | ⟨hj, hp⟩
    · rw [hs.cancelled] at hc; cases hc
    · exact fun _ _ _ => ⟨hp, hj⟩
  | request i job r next hi => exact hset (by simp)
  | finish i job outcome hi => exact hset (by simp)
  | deliverRefreshed i job hi hw room => exact hset (by simp)
  | refreshedFails i job hi hw => rw [ho.wantsRefreshed] at hw; cases hw
  | deliverProblem i job cause hi hw room => exact hset (by simp)
  | problemFails i job cause hi hw => rw [ho.wantsProblems] at hw; cases hw
  | _ => exact hs.retired

theorem step_queueing (hs : Whole plan s) (h : Step plan answer s op t) :
    ∀ job rest, t.producer = .queueing job rest → ∃ us, plan.listing = .ok us := by
  cases h with
  | list us hp hc hl => exact fun _ _ _ => ⟨us, hl⟩
  | queue job rest hp hc ha room => exact fun _ _ _ => hs.queueing job rest hp
  | listFails f hp hc hl => exact fun _ _ h => by cases h
  | quit hc hp => exact fun _ _ h => by cases h
  | queueFails job rest hp hc ha => exact fun _ _ h => by cases h
  | report f hp hc hw room => exact fun _ _ h => by cases h
  | reportFails f hp hc hw => exact fun _ _ h => by cases h
  | _ => exact hs.queueing

/-- a step after which the producer has stopped -/
theorem step_reported (hn : 0 < plan.config.concurrency) (ho : Orderly plan s) (ha : Accounts plan s)
    (hs : Whole plan s) (h : Step plan answer s op t) (hp : t.producer = .stopped) (f : Failure)
    (hf : plan.listing = .error f) : t.listings = [f] := by
  rcases step_listings h with hl | ⟨g, hg, -, -, hl⟩
  · rw [hl]
    by_cases hps : s.producer = .stopped
    · exact hs.reported hps f hf
    · -- it stopped in this step, and yet it had nothing to report
      exfalso
      cases h with
      | quit hc _ => rw [hs.cancelled] at hc; cases hc
      | list us _ hc hus => rw [hf] at hus; cases hus
      | listFails => cases hp
      | queue job rest hq hc _ room =>
        obtain ⟨us, hus⟩ := hs.queueing job rest hq
        rw [hf] at hus; cases hus
      | queueFails job rest hq hc hab => rw [not_abandoned hn ho hs hps] at hab; cases hab
      | report g hg hc hw room => simp [listings, sentProblems, Notice.listing?] at hl
      | reportFails g hg hc hw => rw [ho.wantsProblems] at hw; cases hw
      | _ => exact hps hp
  · rcases ha.listings with he | ⟨hps, -⟩
    · have hgf := ha.failed g hg
      rw [hf] at hgf
      cases hgf
      rw [hl, he, List.nil_append]
    · rw [hg] at hps; cases hps

/-- **A step that does not cancel drops nothing.** -/
theorem step_whole (hn : 0 < plan.config.concurrency) (ho : Orderly plan s) (ha : Accounts plan s)
    (hs : Whole plan s) (hop : op ≠ .cancel) (h : Step plan answer s op t) : Whole plan t where
  cancelled := by
    cases h with
    | cancel hc => exact absurd rfl hop
    | _ => exact hs.cancelled
  line := by
    rcases step_line h with hl | ⟨hc | hab, hp, -⟩
    · exact hl.trans hs.line
    · rw [hs.cancelled] at hc; cases hc
    · rw [not_abandoned hn ho hs hp] at hab; cases hab
  retired := step_retired ho hs h
  queueing := step_queueing hs h
  reported := step_reported hn ho ha hs h

/-- a run that nobody cancels drops nothing -/
theorem whole_of_run (hn : 0 < plan.config.concurrency) {world : σ} (hops : .cancel ∉ ops)
    (hrun : (init plan world false).run? plan answer ops = some s) : Whole plan s := by
  have hall : Orderly plan s ∧ Accounts plan s ∧ Whole plan s :=
    run_preserves (P := fun s => Orderly plan s ∧ Accounts plan s ∧ Whole plan s)
      (fun s op t hop h hs => ⟨step_orderly hs.1 h, step_accounts hs.1 hs.2.1 h,
        step_whole hn hs.1 hs.2.1 hs.2.2 (fun he => hops (he ▸ hop)) h⟩) hrun
      ⟨orderly_init plan world false, accounts_init plan world false, whole_init plan world⟩
  exact hall.2.2

/-! ## Sweeps that somebody cancels -/

/-- **No worker takes a job of a cancelled sweep**, and nothing is said about its listing any more. -/
theorem step_cancelled (hc : s.cancelled = true) (h : Step plan answer s op t) :
    t.cancelled = true ∧ t.begun = s.begun ∧ t.listings = s.listings := by
  have hl : t.listings = s.listings := by
    rcases step_listings h with hl | ⟨f, -, hn, -⟩
    · exact hl
    · rw [hc] at hn; cases hn
  cases h with
  | take i job rest hh hn hj => rw [hc] at hn; cases hn
  | cancel hn => exact ⟨rfl, rfl, rfl⟩
  | _ => exact ⟨hc, rfl, hl⟩

theorem begun_of_cancelled (hc : s.cancelled = true) (hrun : s.run? plan answer ops = some t) :
    t.begun = s.begun ∧ t.listings = s.listings := by
  have hall : t.cancelled = true ∧ t.begun = s.begun ∧ t.listings = s.listings := by
    refine run_preserves (P := fun u => u.cancelled = true ∧ u.begun = s.begun ∧ u.listings = s.listings)
      (fun u op v _ h hu => ?_) hrun ⟨hc, rfl, rfl⟩
    obtain ⟨hcu, hb, hl⟩ := hu
    obtain ⟨hcv, hb', hl'⟩ := step_cancelled hcu h
    exact ⟨hcv, hb'.trans hb, hl'.trans hl⟩
  exact hall.2

end AccountStats.Sweep
