import Mathlib.Tactic
import Mathlib.Logic.Hydra
import AccountStats.Proofs.Sweep.Order
import AccountStats.Proofs.Sweep.Accounting
/-
A sweep that is drained comes to its end.

It never gets stuck: `progress` finds a step of some task as long as the consumer has not seen the end of both streams.
The supervisor waits for a task that has not stopped; if that task cannot move, it waits for the lock, for a job or for
room in a channel, and then the one it waits for can.

It never goes on for ever: `work` counts what is still to be done, and every step lowers it, but for the requests that a
synchronization makes, after which less of that synchronization is left. As only finitely many steps are possible at a
time, the runs from a state are bounded in length (`exists_bound`), and the length of the longest one is a measure that
every step lowers.

`sweep_terminates` puts both together.
-/
namespace AccountStats.Sweep

variable {I : Interface} {σ : Type} {plan : Plan I} {answer : (r : I.Request) → σ → I.Reply r × σ}
  {s t : State I σ} {op : Op} {ops : List Op}

open State

/-! ## Some task can move -/

/-- a step of some task -/
def Moves (plan : Plan I) (answer : (r : I.Request) → σ → I.Reply r × σ) (s : State I σ) : Prop :=
  ∃ op t, op ≠ .cancel ∧ Step plan answer s op t

theorem Moves.intro (hop : op ≠ .cancel) (h : Step plan answer s op t) : Moves plan answer s := ⟨op, t, hop, h⟩

theorem endedRefreshed_of_open (ho : Orderly plan s) (hc : s.closed = false) : s.endedRefreshed = false :=
  Bool.eq_false_iff.2 fun he => by rw [(ho.endedRefreshed he).1] at hc; cases hc

theorem endedProblems_of_open (ho : Orderly plan s) (hc : s.closed = false) : s.endedProblems = false :=
  Bool.eq_false_iff.2 fun he => by rw [(ho.endedProblems he).1] at hc; cases hc

/-- if a channel has no room, the consumer can take something from it -/
theorem moves_of_full_problems (ho : Orderly plan s) (hc : s.closed = false) (hn : 0 < plan.config.errorCapacity)
    (room : ¬ s.problems.length < plan.config.errorCapacity) : Moves plan answer s := by
  cases hp : s.problems with
  | nil => rw [hp, List.length_nil] at room; exact absurd hn room
  | cons notice rest => exact .intro (by simp) (.takeProblem notice rest (endedProblems_of_open ho hc) hp)

theorem moves_of_full_refreshed (ho : Orderly plan s) (hc : s.closed = false) (hb : 0 < plan.config.batchSize)
    (room : ¬ s.refreshed.length < plan.config.batchSize) : Moves plan answer s := by
  cases hr : s.refreshed with
  | nil => rw [hr, List.length_nil] at room; exact absurd hb room
  | cons job rest => exact .intro (by simp) (.takeRefreshed job rest (endedRefreshed_of_open ho hc) hr)

/-- a worker has something to wait for no longer: the sweep is cancelled, or there is a job, or there will be none -/
def Served (s : State I σ) : Prop := s.cancelled = true ∨ s.jobs ≠ [] ∨ s.producer = .stopped

/-- the worker with the lock can look at the queue -/
theorem moves_of_holder (hs : Served s) {i : Nat} (hh : s.holder = some i) : Moves plan answer s := by
  by_cases hc : s.cancelled = true
  · exact .intro (by simp) (.retire i hh (Or.inl hc))
  · cases hj : s.jobs with
    | cons job rest => exact .intro (by simp) (.take i job rest hh (by simpa using hc) hj)
    | nil =>
      have hp : s.producer = .stopped := (hs.resolve_left hc).resolve_left (fun hne => hne hj)
      exact .intro (by simp) (.retire i hh (Or.inr ⟨hj, hp⟩))

/-- a worker that has not stopped can move, or the one that it waits for can -/
theorem moves_of_worker (hn : 0 < plan.config.concurrency) (hb : 0 < plan.config.batchSize) (ho : Orderly plan s)
    (hs : Served s) {i : Nat} {w : Worker I} (hi : s.workers[i]? = some w) (hw : w ≠ .stopped) :
    Moves plan answer s := by
  have hc : s.closed = false := not_closed_of_worker ho hi hw
  cases w with
  | free =>
    cases hh : s.holder with
    | none => exact .intro (by simp) (.lock i hh hi)
    | some j => exact moves_of_holder hs hh
  | syncing job p =>
    cases p with
    | done outcome => exact .intro (by simp) (.finish i job outcome hi)
    | ask r next => exact .intro (by simp) (.request i job r next hi)
  | reporting r =>
    obtain ⟨job, cause | ⟨⟩⟩ := r
    · by_cases room : s.problems.length < plan.config.errorCapacity
      · exact .intro (by simp) (.deliverProblem i job cause hi ho.wantsProblems room)
      · exact moves_of_full_problems ho hc (Nat.mul_pos hn (by decide)) room
    · by_cases room : s.refreshed.length < plan.config.batchSize
      · exact .intro (by simp) (.deliverRefreshed i job hi ho.wantsRefreshed room)
      · exact moves_of_full_refreshed ho hc hb room
  | stopped => exact absurd rfl hw

/-- a producer that has not stopped can move, or a worker that it waits for can -/
theorem moves_of_producer (hn : 0 < plan.config.concurrency) (hb : 0 < plan.config.batchSize) (ho : Orderly plan s)
    (hp : s.producer ≠ .stopped) : Moves plan answer s := by
  have hopen : s.closed = false := not_closed_of_producer ho hp
  by_cases hcancel : s.cancelled = true
  · exact .intro (by simp) (.quit hcancel hp)
  have hc : s.cancelled = false := by simpa using hcancel
  cases hpr : s.producer with
  | listing =>
    cases hl : plan.listing with
    | ok us => exact .intro (by simp) (.list us hpr hc hl)
    | error f => exact .intro (by simp) (.listFails f hpr hc hl)
  | queueing job rest =>
    cases hab : s.abandoned with
    | true => exact .intro (by simp) (.queueFails job rest hpr hc hab)
    | false =>
      by_cases room : s.jobs.length < plan.config.concurrency
      · exact .intro (by simp) (.queue job rest hpr hc hab room)
      · -- the queue is full, so there is a job for a worker that has not stopped
        have hjobs : s.jobs ≠ [] := fun hj => room (by rw [hj]; exact hn)
        obtain ⟨w, hw, hws⟩ : ∃ w ∈ s.workers, w ≠ .stopped := by
          rw [← Bool.not_eq_true, abandoned_iff] at hab
          simpa using hab
        obtain ⟨i, hi⟩ := List.mem_iff_getElem?.1 hw
        exact moves_of_worker hn hb ho (Or.inr (Or.inl hjobs)) hi hws
  | reporting f =>
    by_cases room : s.problems.length < plan.config.errorCapacity
    · exact .intro (by simp) (.report f hpr hc ho.wantsProblems room)
    · exact moves_of_full_problems ho hopen (Nat.mul_pos hn (by decide)) room
  | stopped => exact absurd hpr hp

/-- a consumer of closed streams can move until it has seen the end of both -/
theorem moves_of_closed (hc : s.closed = true) (he : s.ended = false) : Moves plan answer s := by
  cases her : s.endedRefreshed with
  | false =>
    cases hr : s.refreshed with
    | nil => exact .intro (by simp) (.endRefreshed her hr (Or.inl hc))
    | cons job rest => exact .intro (by simp) (.takeRefreshed job rest her hr)
  | true =>
    have hep : s.endedProblems = false := by simpa [ended, her] using he
    cases hp : s.problems with
    | nil => exact .intro (by simp) (.endProblems hep hp (Or.inl hc))
    | cons notice rest => exact .intro (by simp) (.takeProblem notice rest hep hp)

/-- **A sweep that is drained does not get stuck.** -/
theorem progress (hn : 0 < plan.config.concurrency) (hb : 0 < plan.config.batchSize) (ho : Orderly plan s)
    (he : s.ended = false) : Moves plan answer s := by
  cases hc : s.closed with
  | true => exact moves_of_closed hc he
  | false =>
    by_cases hready : s.taskStopped s.joined = true
    · exact .intro (by simp) (.join hready)
    -- the task that the supervisor waits for has not stopped
    cases hj : s.joined with
    | zero =>
      rw [hj, taskStopped, producerStopped_iff] at hready
      exact moves_of_producer hn hb ho hready
    | succ i =>
      rw [hj, taskStopped, workerStopped_iff] at hready
      have hp : s.producer = .stopped := (producerStopped_iff s).1 (ho.joined 0 (by omega))
      have hi : i < s.workers.length := by
        have hle := ho.joined_le
        have hne : s.joined ≠ s.workers.length + 1 := fun h => by rw [closed_iff.2 h] at hc; cases hc
        omega
      rw [List.getElem?_eq_getElem hi, Option.some.injEq] at hready
      exact moves_of_worker hn hb ho (Or.inr (Or.inr hp)) (List.getElem?_eq_getElem hi) hready

/-- a consumer has seen the end of both streams when they are closed only -/
theorem closed_of_ended (ho : Orderly plan s) (he : s.ended = true) : s.closed = true :=
  (ho.endedRefreshed (Bool.and_eq_true_iff.1 he).1).1

/-! ## What is still to be done -/

namespace Producer

/-- a job that is to be queued counts for all that becomes of it -/
def work (plan : Plan I) : Producer → Nat
  | .listing => 6 * plan.jobs.length + 3
  | .queueing _ rest => 6 * (rest.length + 1)
  | .reporting _ => 2
  | .stopped => 0

theorem work_listing (plan : Plan I) : listing.work plan = 6 * plan.jobs.length + 3 := rfl

theorem work_queueing (plan : Plan I) (job : Job) (rest : List Job) :
    (queueing job rest).work plan = 6 * (rest.length + 1) := rfl

theorem work_reporting (plan : Plan I) (f : Failure) : (reporting f).work plan = 2 := rfl

theorem work_stopped (plan : Plan I) : stopped.work plan = 0 := rfl

theorem work_ofJobs (plan : Plan I) (js : List Job) : (ofJobs js).work plan = 6 * js.length := by
  cases js <;> rfl

theorem work_pos (plan : Plan I) {p : Producer} (hp : p ≠ .stopped) : 0 < p.work plan := by
  cases p <;> simp_all [work]

end Producer

namespace Worker

def work : Worker I → Nat
  | .free => 2
  | .syncing .. => 5
  | .reporting _ => 4
  | .stopped => 0

/-- what the worker still runs -/
def program? : Worker I → Option (Program I (Except Failure Unit))
  | .syncing _ p => some p
  | _ => none

end Worker

/-- a flag that is still to be raised -/
def pending (flag : Bool) : Nat := if flag then 0 else 1

namespace State

/-- a lock that is still to be taken -/
def unlocked : Option Nat → Nat
  | none => 1
  | some _ => 0

/-- jobs not queued yet, queued, in flight, reported and not taken yet; tasks that have not stopped, or are not joined
yet; streams whose end the consumer has not seen -/
def work (plan : Plan I) (s : State I σ) : Nat :=
  s.producer.work plan + 5 * s.jobs.length + (s.workers.map Worker.work).sum + unlocked s.holder +
    s.refreshed.length + s.problems.length + (s.workers.length + 1 - s.joined) +
    pending s.endedRefreshed + pending s.endedProblems + pending s.cancelled

/-- what the workers still run -/
def programs (s : State I σ) : Multiset (Program I (Except Failure Unit)) := ↑(s.workers.filterMap Worker.program?)

end State

theorem sum_set {ws : List (Worker I)} {i : Nat} {v w : Worker I} (hi : ws[i]? = some v) :
    ((ws.set i w).map Worker.work).sum + v.work = (ws.map Worker.work).sum + w.work := by
  obtain ⟨rest, hold, hnew⟩ := set_perm hi
  have hv := (hold.map Worker.work).sum_eq
  have hw := ((hnew w).map Worker.work).sum_eq
  rw [List.map_cons, List.sum_cons] at hv hw
  omega

/-- one program is what is left of another after a reply -/
def Reply (q p : Program I (Except Failure Unit)) : Prop := ∃ r next x, p = .ask r next ∧ q = next x

theorem wellFounded_reply : WellFounded (Reply (I := I)) := by
  refine ⟨fun p => ?_⟩
  induction p with
  | done a => exact ⟨_, fun q ⟨r, next, x, hp, _⟩ => by cases hp⟩
  | ask r next ih =>
    refine ⟨_, fun q ⟨r', next', x, hp, hq⟩ => ?_⟩
    cases hp
    exact hq ▸ ih x

/-- **Every step lowers the work**, or a synchronization made a request and less of it is left. -/
theorem step_work (ho : Orderly plan s) (h : Step plan answer s op t) :
    t.work plan < s.work plan ∨
      t.work plan = s.work plan ∧ Relation.CutExpand Reply t.programs s.programs := by
  cases h with
  | cancel hc => left; simp [work, pending, hc]
  | quit hc hp =>
    left
    have := Producer.work_pos plan hp
    simp only [work, Producer.work_stopped]
    omega
  | list us hp hc hl =>
    left
    simp only [work, hp, Producer.work_ofJobs, Producer.work_listing, Plan.jobs, hl]
    omega
  | listFails f hp hc hl => left; simp [work, hp, Producer.work]
  | queue job rest hp hc ha room =>
    left
    simp only [work, hp, Producer.work_ofJobs, Producer.work_queueing, List.length_append,
      List.length_singleton]
    omega
  | queueFails job rest hp hc ha => left; simp [work, hp, Producer.work]
  | report f hp hc hw room =>
    left
    simp only [work, hp, Producer.work_reporting, Producer.work_stopped, List.length_append,
      List.length_singleton]
    omega
  | reportFails f hp hc hw => left; simp [work, hp, Producer.work]
  | lock i hh hi => left; simp [work, unlocked, hh]
  | take i job rest hh hc hj =>
    left
    have hsum := sum_set (w := .syncing job (plan.resync job.username plan.config.ttl)) (ho.holder i hh)
    simp only [work, unlocked, setWorker, hh, hj, List.length_set, List.length_cons, Worker.work] at hsum ⊢
    omega
  | retire i hh h =>
    left
    have hsum := sum_set (w := .stopped) (ho.holder i hh)
    simp only [work, unlocked, setWorker, hh, List.length_set, Worker.work] at hsum ⊢
    omega
  | request i job r next hi =>
    right
    have hsum := sum_set (w := .syncing job (next (answer r s.world).1)) hi
    constructor
    · simp only [work, setWorker, List.length_set, Worker.work] at hsum ⊢
      omega
    · obtain ⟨rest, hold, hnew⟩ := filterMap_set_perm Worker.program? hi
      have hs : s.programs = {.ask r next} + ↑rest := Multiset.coe_eq_coe.2 hold
      have ht : State.programs { s.setWorker i (.syncing job (next (answer r s.world).1)) with
          world := (answer r s.world).2 } = {next (answer r s.world).1} + ↑rest :=
        Multiset.coe_eq_coe.2 (hnew (.syncing job (next (answer r s.world).1)))
      rw [hs, ht]
      have hreply : Reply (next (answer r s.world).1) (.ask r next) := ⟨r, next, _, rfl, rfl⟩
      exact Relation.cutExpand_single_add hreply ↑rest
  | finish i job outcome hi =>
    left
    have hsum := sum_set (w := .reporting ⟨job, outcome⟩) hi
    simp only [work, setWorker, List.length_set, Worker.work] at hsum ⊢
    omega
  | deliverRefreshed i job hi hw room =>
    left
    have hsum := sum_set (w := .free) hi
    simp only [work, setWorker, List.length_set, List.length_append, List.length_singleton,
      Worker.work] at hsum ⊢
    omega
  | refreshedFails i job hi hw =>
    left
    have hsum := sum_set (w := .stopped) hi
    simp only [work, setWorker, List.length_set, Worker.work] at hsum ⊢
    omega
  | deliverProblem i job cause hi hw room =>
    left
    have hsum := sum_set (w := .free) hi
    simp only [work, setWorker, List.length_set, List.length_append, List.length_singleton,
      Worker.work] at hsum ⊢
    omega
  | problemFails i job cause hi hw =>
    left
    have hsum := sum_set (w := .stopped) hi
    simp only [work, setWorker, List.length_set, Worker.work] at hsum ⊢
    omega
  | join h =>
    left
    have := joined_le_of_taskStopped h
    simp only [work]
    omega
  | takeRefreshed job rest he hr => left; simp [work, hr]
  | endRefreshed he hr h => left; simp [work, pending, he]
  | takeProblem notice rest he hr => left; simp [work, hr]
  | endProblems he hr h => left; simp [work, pending, he]

/-! ## Runs are bounded -/

/-- less is to be done: less work, or as much and less to run for the workers -/
def Later (plan : Plan I) (t s : State I σ) : Prop :=
  Prod.Lex (· < ·) (Relation.CutExpand Reply) (t.work plan, t.programs) (s.work plan, s.programs)

theorem wellFounded_later (plan : Plan I) : WellFounded (Later plan : State I σ → State I σ → Prop) :=
  InvImage.wf (fun s : State I σ => (s.work plan, s.programs))
    (WellFounded.prod_lex Nat.lt_wfRel.wf wellFounded_reply.cutExpand)

theorem step_later (ho : Orderly plan s) (h : Step plan answer s op t) : Later plan t s := by
  rcases step_work ho h with hlt | ⟨heq, hcut⟩
  · exact Prod.Lex.left _ _ hlt
  · unfold Later
    rw [heq]
    exact Prod.Lex.right _ hcut

/-- the steps that the tasks of so many workers may try -/
def allOps (n : Nat) : List Op :=
  [.cancel, .quit, .list, .queue, .report, .join, .takeRefreshed, .takeProblem] ++
    (List.range n).flatMap fun i => [.lock i, .poll i, .advance i, .deliver i]

theorem mem_allOps_of_worker {n i : Nat} (hi : i < n) (hop : op ∈ [Op.lock i, .poll i, .advance i, .deliver i]) :
    op ∈ allOps n :=
  List.mem_append_right _ (List.mem_flatMap.2 ⟨i, List.mem_range.2 hi, hop⟩)

/-- at any time only so many steps are possible -/
theorem mem_allOps (ho : Orderly plan s) (h : Step plan answer s op t) : op ∈ allOps s.workers.length := by
  have hlt : ∀ {i : Nat} {w : Worker I}, s.workers[i]? = some w → i < s.workers.length := fun hi =>
    (List.getElem?_eq_some_iff.1 hi).1
  cases h with
  | lock i hh hi => exact mem_allOps_of_worker (hlt hi) (by simp)
  | take i job rest hh hc hj => exact mem_allOps_of_worker (hlt (ho.holder i hh)) (by simp)
  | retire i hh h => exact mem_allOps_of_worker (hlt (ho.holder i hh)) (by simp)
  | request i job r next hi => exact mem_allOps_of_worker (hlt hi) (by simp)
  | finish i job outcome hi => exact mem_allOps_of_worker (hlt hi) (by simp)
  | deliverRefreshed i job hi hw room => exact mem_allOps_of_worker (hlt hi) (by simp)
  | refreshedFails i job hi hw => exact mem_allOps_of_worker (hlt hi) (by simp)
  | deliverProblem i job cause hi hw room => exact mem_allOps_of_worker (hlt hi) (by simp)
  | problemFails i job cause hi hw => exact mem_allOps_of_worker (hlt hi) (by simp)
  | _ => exact List.mem_append_left _ (by simp)

/-- no run from the state takes more steps than that -/
def Bounded (plan : Plan I) (answer : (r : I.Request) → σ → I.Reply r × σ) (s : State I σ) (n : Nat) : Prop :=
  ∀ ops t, s.run? plan answer ops = some t → ops.length ≤ n

/-- **The runs of a sweep are bounded.** -/
theorem exists_bound (answer : (r : I.Request) → σ → I.Reply r × σ) (ho : Orderly plan s) :
    ∃ n, Bounded plan answer s n := by
  induction s using (wellFounded_later plan).induction with
  | _ s ih =>
    -- a bound for what follows each of the steps that are possible now
    have hafter : ∀ op, ∃ n, ∀ t, Step plan answer s op t → Bounded plan answer t n := fun op => by
      cases hstep : s.step? plan answer op with
      | none => exact ⟨0, fun t h => by rw [step?_eq_some.2 h] at hstep; cases hstep⟩
      | some u =>
        have hu := step?_eq_some.1 hstep
        obtain ⟨n, hn⟩ := ih u (step_later ho hu) (step_orderly ho hu)
        refine ⟨n, fun t h => ?_⟩
        rw [step?_eq_some.2 h, Option.some.injEq] at hstep
        exact hstep ▸ hn
    choose bound hbound using hafter
    refine ⟨((allOps s.workers.length).map bound).sum + 1, fun ops t hrun => ?_⟩
    cases ops with
    | nil => exact Nat.zero_le _
    | cons op ops =>
      obtain ⟨u, hu, hrest⟩ := run?_cons.1 hrun
      have hlength : ops.length ≤ bound op := hbound op u hu ops t hrest
      have hle : bound op ≤ ((allOps s.workers.length).map bound).sum :=
        List.le_sum_of_mem (List.mem_map_of_mem (mem_allOps ho hu))
      rw [List.length_cons]
      omega

/-- the lengths of the runs from a state -/
def runLengths (plan : Plan I) (answer : (r : I.Request) → σ → I.Reply r × σ) (s : State I σ) : Set Nat :=
  {n | ∃ ops t, s.run? plan answer ops = some t ∧ ops.length = n}

/-- how long the sweep can still go on -/
noncomputable def stepsLeft (plan : Plan I) (answer : (r : I.Request) → σ → I.Reply r × σ) (s : State I σ) : Nat :=
  sSup (runLengths plan answer s)

theorem bddAbove_runLengths (ho : Orderly plan s) : BddAbove (runLengths plan answer s) := by
  obtain ⟨n, hn⟩ := exists_bound answer ho
  refine ⟨n, ?_⟩
  rintro _ ⟨ops, t, hrun, rfl⟩
  exact hn ops t hrun

theorem length_le_stepsLeft (ho : Orderly plan s) (hrun : s.run? plan answer ops = some t) :
    ops.length ≤ stepsLeft plan answer s :=
  le_csSup (bddAbove_runLengths ho) ⟨ops, t, hrun, rfl⟩

theorem exists_longest (answer : (r : I.Request) → σ → I.Reply r × σ) (ho : Orderly plan s) :
    ∃ ops t, s.run? plan answer ops = some t ∧ ops.length = stepsLeft plan answer s := by
  have hne : (runLengths plan answer s).Nonempty := ⟨0, [], s, rfl, rfl⟩
  exact Nat.sSup_mem hne (bddAbove_runLengths ho)

/-- **Every step brings a sweep closer to its end.** -/
theorem step_stepsLeft (ho : Orderly plan s) (h : Step plan answer s op t) :
    stepsLeft plan answer t < stepsLeft plan answer s := by
  obtain ⟨ops, u, hrun, hlength⟩ := exists_longest answer (step_orderly ho h)
  have hlonger : (op :: ops).length ≤ stepsLeft plan answer s := length_le_stepsLeft ho (run?_cons.2 ⟨t, h, hrun⟩)
  rw [List.length_cons, hlength] at hlonger
  exact hlonger

/-! ## The end of a sweep -/

/-- some run of a sweep leads to the state -/
def Reachable (plan : Plan I) (answer : (r : I.Request) → σ → I.Reply r × σ) (world : σ) (cancelled : Bool)
    (s : State I σ) : Prop :=
  ∃ ops, (init plan world cancelled).run? plan answer ops = some s

/-- the streams are closed, and the consumer has drained both of them -/
def State.Over (s : State I σ) : Prop := s.closed = true ∧ s.ended = true

/-- **A drained sweep comes to its end.** Whether it is cancelled or not,
- as long as it is not over, some task can move;
- every step lowers a measure of the state, and the runs are bounded in length;
- where no task can move any more, the sweep is over. -/
theorem sweep_terminates (config : Config) (listing : Except Failure (List String))
    (resync : String → Duration → Program I (Except Failure Unit)) (answer : (r : I.Request) → σ → I.Reply r × σ)
    (world : σ) (cancelled : Bool) :
    (∀ s, Reachable (.ofConfig config listing resync) answer world cancelled s →
      s.Over ∨ ∃ op, op ≠ .cancel ∧ (s.step? (.ofConfig config listing resync) answer op).isSome) ∧
    (∃ measure : State I σ → Nat, ∀ s op t, Reachable (.ofConfig config listing resync) answer world cancelled s →
      s.step? (.ofConfig config listing resync) answer op = some t → measure t < measure s) ∧
    (∃ n, Bounded (.ofConfig config listing resync) answer
      (init (.ofConfig config listing resync) world cancelled) n) ∧
    (∀ s, Reachable (.ofConfig config listing resync) answer world cancelled s →
      (∀ op, op ≠ .cancel → s.step? (.ofConfig config listing resync) answer op = none) → s.Over) := by
  have horderly : ∀ s, Reachable (.ofConfig config listing resync) answer world cancelled s →
      Orderly (.ofConfig config listing resync) s := fun s ⟨ops, hrun⟩ => orderly_of_run hrun
  have hmoves : ∀ s, Reachable (.ofConfig config listing resync) answer world cancelled s →
      s.Over ∨ ∃ op, op ≠ .cancel ∧ (s.step? (.ofConfig config listing resync) answer op).isSome := by
    intro s hs
    cases he : s.ended with
    | true => exact Or.inl ⟨closed_of_ended (horderly s hs) he, he⟩
    | false =>
      obtain ⟨op, t, hop, h⟩ : Moves (.ofConfig config listing resync) answer s :=
        progress config.concurrency_normalized_pos config.batchSize_normalized_pos (horderly s hs) he
      exact Or.inr ⟨op, hop, Option.isSome_iff_exists.2 ⟨t, step?_eq_some.2 h⟩⟩
  refine ⟨hmoves, ⟨stepsLeft (.ofConfig config listing resync) answer, fun s op t hs h => ?_⟩, ?_, fun s hs hnone => ?_⟩
  · exact step_stepsLeft (horderly s hs) (step?_eq_some.1 h)
  · exact exists_bound answer (orderly_init _ world cancelled)
  · refine (hmoves s hs).resolve_right ?_
    rintro ⟨op, hop, hsome⟩
    rw [hnone op hop] at hsome
    cases hsome

end AccountStats.Sweep
