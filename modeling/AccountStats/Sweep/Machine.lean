import AccountStats.Journal
import AccountStats.Program
import AccountStats.Sweep.Config
/-
One sweep over all accounts, as a machine of tasks that share channels.

    producer --jobs--> workers --refreshed--> consumer
        |                 |
        +----problems-----+------------------> consumer

The producer lists the accounts and queues one job for each. A worker takes the lock on the queue, takes the job at its
head, synchronizes the account and sends a report: on the stream of refreshed accounts if it succeeded, on the stream of
problems if not. The supervisor joins the producer and then each worker, and closes both streams. All channels are
bounded, so a task may have to wait for room.

`step?` is one atomic step of one task; it is `none` when that step is not possible. Any order of possible steps is a
run. Cancelling stops the producer and keeps workers from taking further jobs; a job taken before is finished and
reported.

How an account is synchronized is a program of some interface, and the tasks of a sweep share its surroundings.
-/
namespace AccountStats.Sweep

/-- one account to synchronize; a listing may name an account twice, and then these are two jobs -/
structure Job where
  place : Nat
  username : String
deriving DecidableEq, Repr

/-- the jobs of a listing, which are told apart by their places in it -/
def jobsOf (usernames : List String) : List Job := usernames.mapIdx fun place username => ⟨place, username⟩

/-- what became of a job -/
structure Report where
  job : Job
  outcome : Except Failure Unit

/-- an item of the stream of problems -/
inductive Notice where
  | listing (cause : Failure)
  | account (job : Job) (cause : Failure)

namespace Notice

def problem : Notice → Problem
  | .listing cause => .listing cause
  | .account job cause => .account job.username cause

end Notice

inductive Producer where
  /-- waits for the list of accounts -/
  | listing
  /-- has jobs left to queue, at least one -/
  | queueing (job : Job) (rest : List Job)
  /-- could not list the accounts and has that to say -/
  | reporting (cause : Failure)
  | stopped

namespace Producer

/-- with these jobs left to queue -/
def ofJobs : List Job → Producer
  | [] => .stopped
  | job :: rest => .queueing job rest

end Producer

inductive Worker (I : Interface) where
  /-- wants the queue, or has it -/
  | free
  | syncing (job : Job) (rest : Program I (Except Failure Unit))
  /-- has a report to send -/
  | reporting (report : Report)
  | stopped

/-- what a sweep is to do -/
structure Plan (I : Interface) where
  config : Config
  listing : Except Failure (List String)
  /-- synchronizes an account, whose statistics are then cached so long -/
  resync : String → Duration → Program I (Except Failure Unit)

/-- a plan with zeros in its settings replaced by the standard values -/
def Plan.ofConfig (config : Config) (listing : Except Failure (List String))
    (resync : String → Duration → Program I (Except Failure Unit)) : Plan I := ⟨config.normalized, listing, resync⟩

structure State (I : Interface) (σ : Type) where
  world : σ
  cancelled : Bool
  producer : Producer
  /-- jobs queued, the oldest first -/
  jobs : List Job
  /-- the worker that has the lock on the queue -/
  holder : Option Nat
  workers : List (Worker I)
  /-- items of the streams that the consumer has not taken yet -/
  refreshed : List Job
  problems : List Notice
  /-- whether the consumer still wants the streams -/
  wantsRefreshed : Bool
  wantsProblems : Bool
  /-- tasks that the supervisor has joined: the producer first, then the workers -/
  joined : Nat
  /-- what the consumer took -/
  takenRefreshed : List Job
  takenProblems : List Notice
  /-- whether the consumer has seen the end of the streams -/
  endedRefreshed : Bool
  endedProblems : Bool
  /-- jobs in the order in which workers took them, and what became of them -/
  begun : List Job
  finished : List Report
  journal : Journal

inductive Op where
  | cancel
  /-- the producer sees that the sweep is cancelled -/
  | quit
  /-- the list of accounts arrives -/
  | list
  /-- the producer queues a job -/
  | queue
  /-- the producer reports that listing failed -/
  | report
  /-- a worker takes the lock on the queue -/
  | lock (worker : Nat)
  /-- the worker with the lock looks whether the sweep is cancelled, else at the queue -/
  | poll (worker : Nat)
  /-- a worker goes on with the account that it synchronizes -/
  | advance (worker : Nat)
  /-- a worker sends its report -/
  | deliver (worker : Nat)
  /-- the supervisor joins one more task -/
  | join
  | takeRefreshed
  | takeProblem
deriving DecidableEq, Repr

namespace State

variable {I : Interface} {σ : Type}

/-- a sweep before any of its tasks has run -/
def init (plan : Plan I) (world : σ) (cancelled : Bool) : State I σ where
  world
  cancelled
  producer := .listing
  jobs := []
  holder := none
  workers := List.replicate plan.config.concurrency .free
  refreshed := []
  problems := []
  wantsRefreshed := true
  wantsProblems := true
  joined := 0
  takenRefreshed := []
  takenProblems := []
  endedRefreshed := false
  endedProblems := false
  begun := []
  finished := []
  journal := []

/-! ## What tasks look at -/

/-- both streams are closed once the supervisor has joined every task -/
def closed (s : State I σ) : Bool := s.joined == s.workers.length + 1

/-- the consumer has seen the end of both streams -/
def ended (s : State I σ) : Bool := s.endedRefreshed && s.endedProblems

def producerStopped (s : State I σ) : Bool := match s.producer with
  | .stopped => true
  | _ => false

def workerStopped (s : State I σ) (i : Nat) : Bool := match s.workers[i]? with
  | some .stopped => true
  | _ => false

/-- nobody will take another job -/
def abandoned (s : State I σ) : Bool := s.workers.all fun
  | .stopped => true
  | _ => false

def setWorker (s : State I σ) (i : Nat) (w : Worker I) : State I σ := { s with workers := s.workers.set i w }

/-! ## The producer -/

def list? (plan : Plan I) (s : State I σ) : Option (State I σ) :=
  match s.producer, s.cancelled with
  | .listing, false => match plan.listing with
    | .ok usernames => some { s with producer := .ofJobs (jobsOf usernames) }
    | .error f =>
      some { s with
        producer := .reporting f
        journal := s.journal ++ [.warn "Listing accounts for refresh failed" [("error", f.text)]] }
  | _, _ => none

def queue? (plan : Plan I) (s : State I σ) : Option (State I σ) :=
  match s.producer, s.cancelled with
  | .queueing job rest, false =>
    if s.abandoned then some { s with producer := .stopped }
    else if s.jobs.length < plan.config.concurrency then
      some { s with jobs := s.jobs ++ [job], producer := .ofJobs rest }
    else none
  | _, _ => none

def report? (plan : Plan I) (s : State I σ) : Option (State I σ) :=
  match s.producer, s.cancelled with
  | .reporting cause, false =>
    if !s.wantsProblems then some { s with producer := .stopped }
    else if s.problems.length < plan.config.errorCapacity then
      some { s with problems := s.problems ++ [.listing cause], producer := .stopped }
    else none
  | _, _ => none

def quit? (s : State I σ) : Option (State I σ) :=
  if s.cancelled && !s.producerStopped then some { s with producer := .stopped } else none

/-! ## The workers -/

def lock? (s : State I σ) (i : Nat) : Option (State I σ) :=
  match s.holder, s.workers[i]? with
  | none, some .free => some { s with holder := some i }
  | _, _ => none

/-- a cancelled sweep, or a queue that will stay empty, stops the worker; an empty queue makes it wait -/
def poll? (plan : Plan I) (s : State I σ) (i : Nat) : Option (State I σ) :=
  if s.holder = some i then
    if s.cancelled then some { s.setWorker i .stopped with holder := none }
    else match s.jobs with
      | job :: rest =>
        some { s.setWorker i (.syncing job (plan.resync job.username plan.config.ttl)) with
          holder := none, jobs := rest, begun := s.begun ++ [job] }
      | [] => if s.producerStopped then some { s.setWorker i .stopped with holder := none } else none
  else none

def advance? (answer : (r : I.Request) → σ → I.Reply r × σ) (s : State I σ) (i : Nat) : Option (State I σ) :=
  match s.workers[i]? with
  | some (.syncing job (.ask r next)) =>
    let (x, world) := answer r s.world
    some { s.setWorker i (.syncing job (next x)) with world }
  | some (.syncing job (.done outcome)) =>
    some { s.setWorker i (.reporting ⟨job, outcome⟩) with finished := s.finished ++ [⟨job, outcome⟩] }
  | _ => none

/-- a report that nobody wants stops the worker -/
def deliver? (plan : Plan I) (s : State I σ) (i : Nat) : Option (State I σ) :=
  match s.workers[i]? with
  | some (.reporting ⟨job, .ok ()⟩) =>
    if !s.wantsRefreshed then some (s.setWorker i .stopped)
    else if s.refreshed.length < plan.config.batchSize then
      some { s.setWorker i .free with refreshed := s.refreshed ++ [job] }
    else none
  | some (.reporting ⟨job, .error cause⟩) =>
    if !s.wantsProblems then some (s.setWorker i .stopped)
    else if s.problems.length < plan.config.errorCapacity then
      some { s.setWorker i .free with problems := s.problems ++ [.account job cause] }
    else none
  | _ => none

/-! ## The supervisor and the consumer -/

def join? (s : State I σ) : Option (State I σ) :=
  let ready := match s.joined with
    | 0 => s.producerStopped
    | i + 1 => s.workerStopped i
  if ready then some { s with joined := s.joined + 1 } else none

def takeRefreshed? (s : State I σ) : Option (State I σ) :=
  if s.endedRefreshed then none
  else match s.refreshed with
    | job :: rest => some { s with refreshed := rest, takenRefreshed := s.takenRefreshed ++ [job] }
    | [] => if s.closed || !s.wantsRefreshed then some { s with endedRefreshed := true } else none

def takeProblem? (s : State I σ) : Option (State I σ) :=
  if s.endedProblems then none
  else match s.problems with
    | notice :: rest => some { s with problems := rest, takenProblems := s.takenProblems ++ [notice] }
    | [] => if s.closed || !s.wantsProblems then some { s with endedProblems := true } else none

/-! ## Steps and runs -/

def step? (plan : Plan I) (answer : (r : I.Request) → σ → I.Reply r × σ) (s : State I σ) : Op → Option (State I σ)
  | .cancel => if s.cancelled then none else some { s with cancelled := true }
  | .quit => s.quit?
  | .list => s.list? plan
  | .queue => s.queue? plan
  | .report => s.report? plan
  | .lock i => s.lock? i
  | .poll i => s.poll? plan i
  | .advance i => s.advance? answer i
  | .deliver i => s.deliver? plan i
  | .join => s.join?
  | .takeRefreshed => s.takeRefreshed?
  | .takeProblem => s.takeProblem?

/-- all steps in order, if each is possible in its turn -/
def run? (plan : Plan I) (answer : (r : I.Request) → σ → I.Reply r × σ) (s : State I σ) :
    List Op → Option (State I σ)
  | [] => some s
  | op :: ops => (s.step? plan answer op).bind fun s => s.run? plan answer ops

/-! ## What a sweep comes to -/

def summary (s : State I σ) : Summary := ⟨s.takenRefreshed.length, s.takenProblems.length⟩

/-- what is noted of each problem that the consumer of a sweep takes -/
def noteProblem (n : Notice) : Note := .warn "Account refresh failed" [("error", n.problem.text)]

/-- all that a sweep notes when its consumer drains both streams -/
def drained (s : State I σ) : Journal := s.journal ++ s.takenProblems.map noteProblem

end State

end AccountStats.Sweep
