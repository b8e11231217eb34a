import AccountStats.Scenario.GitHub
import AccountStats.Sweep.Machine
import AccountStats.Sweep.Schedule
/-
Sweeps in scripted surroundings: listings and synchronizations reply from lists, after delays on a clock of
milliseconds. Of the steps that are possible at one time, that of the producer comes first, then those of the workers in
order, then that of the supervisor, then those of the consumer.
-/
namespace AccountStats.Scenario

open AccountStats.Sweep

/-! ## Scripted synchronization -/

/-- how the synchronization of an account is scripted to go -/
structure SyncOutcome where
  result : Except Failure Unit
  delay : Nat
  /-- the sweep is cancelled when this synchronization starts -/
  cancels : Bool

inductive SyncAsk where
  /-- starts an account: gives the result, and the time at which it is due -/
  | start (username : String) (ttl : Duration)
  | sleepUntil (time : Nat)

abbrev SyncAsk.Reply : SyncAsk → Type
  | .start _ _ => Except Failure Unit × Nat
  | .sleepUntil _ => Unit

abbrev SyncCalls : Interface := ⟨SyncAsk, SyncAsk.Reply⟩

/-- a synchronization that sleeps and then replies -/
def scriptedResync (username : String) (ttl : Duration) : Program SyncCalls (Except Failure Unit) := do
  let (result, due) ← Program.ask (SyncAsk.start username ttl) Program.done
  let () ← Program.ask (SyncAsk.sleepUntil due) Program.done
  return result

/-- an account whose synchronization started -/
structure Started where
  time : Nat
  username : String
  ttl : Duration

structure SyncWorld where
  now : Nat
  outcomes : List (String × List SyncOutcome)
  /-- delay of an account whose outcomes are used up -/
  delay : Nat
  started : List Started
  /-- a synchronization asked for the sweep to be cancelled -/
  cancelling : Bool

namespace SyncWorld

/-- the next outcome for an account, and the script without it -/
def take (username : String) : List (String × List SyncOutcome) → Option SyncOutcome × List (String × List SyncOutcome)
  | [] => (none, [])
  | (u, os) :: rest =>
    if u = username then
      match os with
      | [] => (none, (u, []) :: rest)
      | o :: os => (some o, (u, os) :: rest)
    else
      let (o, rest) := take username rest
      (o, (u, os) :: rest)

def answer (r : SyncAsk) (w : SyncWorld) : r.Reply × SyncWorld :=
  match r with
  | .start username ttl =>
    let (o, outcomes) := take username w.outcomes
    let o : SyncOutcome := o.getD ⟨.ok (), w.delay, false⟩
    ((o.result, w.now + o.delay),
      { w with outcomes, started := w.started ++ [⟨w.now, username, ttl⟩], cancelling := w.cancelling || o.cancels })
  | .sleepUntil _ => ((), w)

end SyncWorld

/-! ## One sweep -/

/-- which streams the consumer gives up -/
structure Dropping where
  refreshed : Bool
  problems : Bool

/-- times at which things happen to a sweep from outside -/
structure SweepTimes where
  /-- when the list of accounts arrives -/
  listed : Nat
  cancelled : Option Nat
  /-- until when the consumer does not look at the streams -/
  stalled : Option Nat
  dropping : Dropping

abbrev SweepState := State SyncCalls SyncWorld

namespace SweepState

def sleepsUntil : Worker SyncCalls → Option Nat
  | .syncing _ (.ask (.sleepUntil t) _) => some t
  | _ => none

/-- whether nothing but the clock keeps an operation back -/
def due (t : SweepTimes) (s : SweepState) : Op → Bool
  | .list => t.listed ≤ s.world.now
  | .advance i => (s.workers[i]?.bind sleepsUntil).all (· ≤ s.world.now)
  | .takeRefreshed | .takeProblem => t.stalled.all (· ≤ s.world.now)
  | _ => true

/-- all operations of the tasks, those that come first in front -/
def operations (workers : Nat) : List Op :=
  [.quit, .list, .queue, .report] ++
    (List.range workers).flatMap (fun i => [.deliver i, .advance i, .poll i, .lock i]) ++
    [.join, .takeRefreshed, .takeProblem]

/-- the first step that is possible now -/
def next? (plan : Plan SyncCalls) (t : SweepTimes) (s : SweepState) : Option SweepState :=
  (operations s.workers.length).findSome? fun op =>
    if due t s op then s.step? plan SyncWorld.answer op else none

/-- the sweep is cancelled as soon as a synchronization asks for it -/
def heed (s : SweepState) : SweepState := { s with cancelled := s.cancelled || s.world.cancelling }

/-- the consumer gives streams up -/
def drop (d : Dropping) (s : SweepState) : SweepState :=
  { s with
    wantsRefreshed := s.wantsRefreshed && !d.refreshed
    wantsProblems := s.wantsProblems && !d.problems }

/-- the next time at which something happens -/
def wakes (t : SweepTimes) (s : SweepState) : Option Nat :=
  let times := [t.listed] ++ t.cancelled.toList ++ t.stalled.toList ++ s.workers.filterMap sleepsUntil
  (times.filter (s.world.now < ·)).min?

/-- moves the clock to a time, with what happens at that time -/
def moveTo (s : SweepState) (t : SweepTimes) (time : Nat) : SweepState :=
  let s : SweepState := { s with world := { s.world with now := time } }
  let s : SweepState := { s with cancelled := s.cancelled || t.cancelled.any (· ≤ time) }
  if t.stalled.all (· ≤ time) then s.drop t.dropping else s

/-- `fuel` steps at most, until the consumer has seen the end of both streams or nothing can happen before `limit` -/
def runUntil (s : SweepState) (plan : Plan SyncCalls) (t : SweepTimes) (limit : Option Nat) : Nat → SweepState
  | 0 => s
  | fuel + 1 =>
    if s.ended then s
    else match next? plan t s with
      | some s => runUntil s.heed plan t limit fuel
      | none => match wakes t s with
        | some time => if limit.all (time < ·) then runUntil (s.moveTo t time) plan t limit fuel else s
        | none => s

/-- steps enough for every job and every task -/
def fuel (plan : Plan SyncCalls) : Nat :=
  let jobs := match plan.listing with
    | .ok usernames => usernames.length
    | .error _ => 1
  12 * jobs + 8 * plan.config.concurrency + 20

end SweepState

/-- a sweep as the scripts order it -/
structure SweepScript where
  plan : Plan SyncCalls
  times : SweepTimes
  cancelledBefore : Bool
  world : SyncWorld

/-- the accounts started while the consumer did not look, and the sweep at its end -/
def SweepScript.run (c : SweepScript) : List Started × SweepState :=
  let fuel := SweepState.fuel c.plan
  let s := SweepState.moveTo (State.init c.plan c.world c.cancelledBefore) c.times c.world.now
  match c.times.stalled with
  | none => ([], s.runUntil c.plan c.times none fuel)
  | some time =>
    let s := if s.world.now < time then s.runUntil c.plan c.times (some time) fuel else s
    (s.world.started, (s.moveTo c.times time).runUntil c.plan c.times none fuel)

/-! ## A schedule -/

/-- listings of the sweeps to come, and all that they share -/
structure ScheduleWorld where
  listings : List (Scripted (Except Failure (List String)))
  listed : Nat
  sync : SyncWorld
  config : Config

def millisecond : Nat := Duration.ofMillis 1

/-- one sweep of a schedule that is cancelled at a time (in milliseconds) -/
def scriptedSweep (cancelled : Nat) : Sweeper ScheduleWorld := fun begun w =>
  let (listing, listings) : Scripted (Except Failure (List String)) × _ := match w.listings with
    | [] => (⟨.ok [], 0⟩, [])
    | l :: rest => (l, rest)
  let now := begun / millisecond
  let c : SweepScript := {
    plan := .ofConfig w.config listing.reply scriptedResync
    times := ⟨now + listing.delay, some cancelled, none, ⟨false, false⟩⟩
    cancelledBefore := false
    world := { w.sync with now } }
  let s := c.run.2
  (⟨begun, s.world.now * millisecond, s.summary⟩,
    { w with listings, listed := w.listed + 1, sync := s.world })

/-- sweeps at an interval, cancelled at a time, both in milliseconds -/
def runSchedule (interval cancelled : Nat) (w : ScheduleWorld) : Schedule × Schedule.Outcome ScheduleWorld :=
  let s := Schedule.ofInterval 0 (Duration.ofMillis interval)
  (s, s.run (cancelled * millisecond) (scriptedSweep cancelled) w)

end AccountStats.Scenario
