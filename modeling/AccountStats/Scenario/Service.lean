import AccountStats.Banner.Publish
import AccountStats.Program.Tasks
import AccountStats.Scenario.Cache
import AccountStats.Scenario.GitHub
import AccountStats.Sync.Background
/-
The statistics service in scripted surroundings. The store, GitHub and the publisher reply from lists, per account and in
order; the cache is the one in the process, none, or one that always fails. The clock of the cache stands still, that of
the calendar moves a nanosecond with each reading.
-/
namespace AccountStats.Scenario

open AccountStats.Sync

/-- a call as it was made -/
inductive ServiceCall where
  | cacheGet (username : String)
  | cacheSet (username : String) (ttl : Duration) (entry : Entry)
  | cacheDelete (username : String)
  | readStored (username : String)
  | save (snapshot : Snapshot)
  | fetch (username : String)
  | publish (event : Banner.Event)

/-- scripted replies by account -/
abbrev Script (α : Type) := List (String × List (Scripted α))

namespace Script

/-- the next reply for an account, and the script without it -/
def take (username : String) : Script α → Option (Scripted α) × Script α
  | [] => (none, [])
  | (u, rs) :: rest =>
    if u = username then
      match rs with
      | [] => (none, (u, []) :: rest)
      | r :: rs => (some r, (u, rs) :: rest)
    else
      let (r, rest) := take username rest
      (r, (u, rs) :: rest)

def size (s : Script α) : Nat := s.foldl (fun n (_, rs) => n + rs.length) 0

end Script

structure ServiceWorld where
  now : Time.Instant
  policy : FreshnessPolicy
  cache : ScriptedCache
  stored : Script (Except Failure Snapshot)
  saves : Script (Except Failure Unit)
  fetches : Script (Except Failure Snapshot)
  /-- failures of the publisher, `none` for a success -/
  publishes : List (Option String)
  background : Background
  /-- refreshes that were granted a place and have not begun -/
  waiting : List String
  calls : List ServiceCall
  journal : Journal

/-- what a step comes to -/
inductive ServiceResult where
  | stats (r : Except Failure Stats)
  | entry (r : Except Failure Entry)
  | unit (r : Except Failure Unit)
  | event (r : Except Failure Banner.Event)
  | nothing

namespace ServiceWorld

def call (w : ServiceWorld) (c : ServiceCall) : ServiceWorld := { w with calls := w.calls ++ [c] }

/-- a scripted reply, or the one that stands for an empty script -/
def scriptedOr (default : α) : Option (Scripted α) → α × Nat
  | some r => (r.reply, r.delay)
  | none => (default, 0)

def answer (r : Ask) (w : ServiceWorld) : (r.Reply × Nat) × ServiceWorld :=
  match r with
  | .now => ((w.now, 0), { w with now := w.now.next })
  | .cacheGet u =>
    let (reply, cache) := w.cache.get u
    ((reply, 0), { w with cache }.call (.cacheGet u))
  | .cacheSet u e ttl =>
    let (reply, cache) := w.cache.set u e ttl
    ((reply, 0), { w with cache }.call (.cacheSet u ttl e))
  | .cacheDelete u =>
    let (reply, cache) := w.cache.delete u
    ((reply, 0), { w with cache }.call (.cacheDelete u))
  | .readStored u =>
    let (r, stored) := w.stored.take u
    (scriptedOr (.error (Failure.accountNotStored u)) r, { w with stored }.call (.readStored u))
  | .save s =>
    let (r, saves) := w.saves.take s.username
    (scriptedOr (.ok ()) r, { w with saves }.call (.save s))
  | .fetch u =>
    let (r, fetches) := w.fetches.take u
    (scriptedOr (.error (Failure.accountNotFound u)) r, { w with fetches }.call (.fetch u))
  | .startRefresh u =>
    let (granted, background) := w.background.start
    ((granted, 0), { w with background, waiting := if granted then w.waiting ++ [u] else w.waiting })
  | .endRefresh => (((), 0), { w with background := w.background.finish })
  | .publish event =>
    let w := w.call (.publish event)
    match w.publishes with
    | some message :: rest => ((.error (.delivery message), 0), { w with publishes := rest })
    | none :: rest => ((.ok (), 0), { w with publishes := rest })
    | [] => ((.ok (), 0), w)
  | .note n => (((), 0), { w with journal := w.journal ++ [n] })

/-- a refresh as a task with its time limit -/
def refreshTask (policy : FreshnessPolicy) (username : String) :
    Program Calls ServiceResult × Limit Calls ServiceResult :=
  (do refresh policy username; return .nothing,
    ⟨policy.refreshTimeout.millis, do refreshLate policy username; return .nothing⟩)

def surroundings : Surroundings Calls ServiceWorld ServiceResult where
  answer r _ w := w.answer r
  started w := (w.waiting.map (refreshTask w.policy), { w with waiting := [] })

end ServiceWorld

inductive ServiceStep where
  | getStats (username : String)
  | getEntry (username : String)
  | recalculate (username : String)
  | resync (username : String) (ttl : Duration)
  | publish (username : String) (layout : Banner.Layout) (storagePath : String)
  | evict (username : String)
  | wait (ms : Nat)

/-- the program of a step, if it has one -/
def ServiceStep.program? (policy : FreshnessPolicy) : ServiceStep → Option (Program Calls ServiceResult)
  | .getStats u => some do return .stats (← Sync.getStats policy u)
  | .getEntry u => some do return .entry (← Sync.getEntry policy u)
  | .recalculate u => some do return .stats (← Sync.recalculate policy u)
  | .resync u ttl => some do return .unit (← Sync.resync u ttl)
  | .publish u layout path => some do return .event (← Banner.publish policy u layout path)
  | .evict u => some do
    let _ ← ask (.cacheDelete u)
    return .nothing
  | .wait _ => none

/-- what a step brought about, with all calls that were made meanwhile -/
structure ServiceOutcome where
  result : ServiceResult
  calls : List ServiceCall

abbrev ServiceRun := Tasks Calls ServiceWorld ServiceResult

namespace ServiceRun

/-- one step; afterwards a millisecond passes, so that refreshes in the background go on as far as they can -/
def step (fuel : Nat) (r : ServiceRun) (s : ServiceStep) : ServiceOutcome × ServiceRun :=
  let env := ServiceWorld.surroundings
  let before := r.world.calls.length
  let (result, r) : ServiceResult × ServiceRun := match s with
    | .wait ms => (.nothing, r.runUntil env (r.now + ms) fuel)
    | s => match s.program? r.world.policy with
      | some p =>
        let number := r.next
        let r := (r.add none p).runToEnd env [number] fuel
        ((r.result? number).getD .nothing, r)
      | none => (.nothing, r)
  let r := r.runUntil env (r.now + 1) fuel
  (⟨result, r.world.calls.drop before⟩, r)

def steps (fuel : Nat) (r : ServiceRun) : List ServiceStep → List ServiceOutcome × ServiceRun
  | [] => ([], r)
  | s :: rest =>
    let (o, r) := step fuel r s
    let (os, r) := steps fuel r rest
    (o :: os, r)

/-- all steps in scripted surroundings. Each task begins once, goes on once per scripted reply, and may be late once. -/
def run (w : ServiceWorld) (ss : List ServiceStep) : List ServiceOutcome × ServiceWorld :=
  let fuel := w.stored.size + w.saves.size + w.fetches.size + 4 * ss.length + 4
  let (os, r) := steps fuel (Tasks.start w) ss
  (os, r.world)

end ServiceRun

end AccountStats.Scenario
