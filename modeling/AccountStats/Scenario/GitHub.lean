import AccountStats.GitHub.Fetch
import AccountStats.Program.Tasks
/-
A scripted GitHub: replies are taken from lists in order, every call is kept, and the clock of the calendar stands still.
When a list is empty, the call fails without a response.
-/
namespace AccountStats.Scenario

open AccountStats.GitHub

/-- a scripted reply and how many milliseconds it takes -/
structure Scripted (α : Type) where
  reply : α
  delay : Nat

/-- a call as it was made -/
inductive GitHubCall where
  | rateLimit (token : String)
  | getUser (token login : String)
  | listRepositories (token login : String) (page : UInt32)
deriving DecidableEq, Repr

structure GitHubWorld where
  now : Time.Instant
  probeTimeout : Nat
  rateLimits : List (Scripted (Except CallError Quota))
  users : List (Scripted (Except CallError (Response User)))
  listings : List (Scripted (Except CallError (Response (List ListedRepository))))
  pool : Pool
  calls : List GitHubCall
  journal : Journal

namespace GitHubWorld

/-- the failure of a call for which nothing is scripted -/
def unscripted : CallError := .transport "no scripted reply"

/-- the next scripted reply, and those after it -/
def next (script : List (Scripted (Except CallError α))) :
    Scripted (Except CallError α) × List (Scripted (Except CallError α)) :=
  match script with
  | [] => (⟨.error unscripted, 0⟩, [])
  | r :: rest => (r, rest)

/-- a reply within the time that a probe may take -/
def probeReply (limit : Nat) (r : Scripted (Except CallError Quota)) : Except ProbeError Quota × Nat :=
  if r.delay ≤ limit then (r.reply.mapError .failed, r.delay) else (.error .timedOut, limit)

def answer (r : Ask) (w : GitHubWorld) : (r.Reply × Nat) × GitHubWorld :=
  match r with
  | .now => ((w.now, 0), w)
  | .check i =>
    let (c, pool) := Pool.check w.pool i w.now
    ((c, 0), { w with pool })
  | .install i fresh =>
    let (reserved, pool) := Pool.install w.pool i fresh
    ((reserved, 0), { w with pool })
  | .record i report => (((), 0), { w with pool := Pool.record w.pool i report })
  | .probe token =>
    let (r, rest) := next w.rateLimits
    (probeReply w.probeTimeout r, { w with rateLimits := rest, calls := w.calls ++ [.rateLimit token] })
  | .getUser token login =>
    let (r, rest) := next w.users
    ((r.reply, r.delay), { w with users := rest, calls := w.calls ++ [.getUser token login] })
  | .listRepositories token login page =>
    let (r, rest) := next w.listings
    ((r.reply, r.delay), { w with listings := rest, calls := w.calls ++ [.listRepositories token login page] })
  | .note n => (((), 0), { w with journal := w.journal ++ [n] })

def surroundings (α : Type) : Surroundings Calls GitHubWorld α where
  answer r _ w := answer r w
  started w := ([], w)

/-- no more events can happen than replies are scripted, apart from the start of each task -/
def fuel (w : GitHubWorld) (tasks : Nat) : Nat :=
  w.rateLimits.length + w.users.length + w.listings.length + 2 * tasks + 2

def tokens (w : GitHubWorld) : List String := w.pool.map Credential.token

/-- several programs at once; their results in order, and the world afterwards -/
def runAll (w : GitHubWorld) (programs : List (Program Calls α)) : List (Option α) × GitHubWorld :=
  let t := programs.foldl (fun t p => t.add none p) (Tasks.start w)
  let t := t.runToEnd (surroundings α) (List.range programs.length) (w.fuel programs.length)
  ((List.range programs.length).map t.result?, t.world)

/-- one program on its own -/
def runOne (w : GitHubWorld) (p : Program Calls α) : α × GitHubWorld := p.run (fun r w => let ((x, _), w) := answer r w; (x, w)) w

end GitHubWorld

end AccountStats.Scenario
