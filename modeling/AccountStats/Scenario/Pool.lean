import AccountStats.Scenario.GitHub
/-
A pool of credentials under a sequence of leases and records.
-/
namespace AccountStats.Scenario

open AccountStats.GitHub

inductive PoolStep where
  | acquire
  /-- so many leases asked for at once -/
  | acquireMany (n : Nat)
  /-- what a response reported, for one of the leases of earlier steps -/
  | record (lease : Nat) (report : QuotaReport)
deriving DecidableEq, Repr

inductive PoolResult where
  | lease (number : Nat) (l : Lease)
  | many (ls : List (Option Lease))
  | nothing
deriving DecidableEq, Repr

/-- the world after some steps, and the leases granted one by one so far -/
structure PoolRun where
  world : GitHubWorld
  leases : List Lease

/-- what a step brought about: its result, the calls it made, and the pool after it -/
structure PoolOutcome where
  result : PoolResult
  calls : List GitHubCall
  pool : Pool

namespace PoolRun

/-- the pool filled from tokens, by asking for the quota of each -/
def connect (w : GitHubWorld) (tokens : List String) : PoolRun :=
  let (pool, w) := w.runOne (connectPool tokens)
  ⟨{ w with pool }, []⟩

def act (r : PoolRun) : PoolStep → PoolResult × PoolRun
  | .acquire =>
    let (lease, world) := r.world.runOne (acquire r.world.tokens)
    match lease with
    | some l => (.lease r.leases.length l, ⟨world, r.leases ++ [l]⟩)
    | none => (.nothing, { r with world })
  | .acquireMany n =>
    let (results, world) := r.world.runAll (List.replicate n (acquire r.world.tokens))
    (.many (results.map Option.join), { r with world })
  | .record i report =>
    match r.leases[i]? with
    | some l =>
      let ((), world) := r.world.runOne (ask (.record l.index report))
      (.nothing, { r with world })
    | none => (.nothing, r)

def step (r : PoolRun) (s : PoolStep) : PoolOutcome × PoolRun :=
  let before := r.world.calls.length
  let (result, r) := r.act s
  (⟨result, r.world.calls.drop before, r.world.pool⟩, r)

def run (r : PoolRun) : List PoolStep → List PoolOutcome × PoolRun
  | [] => ([], r)
  | s :: rest =>
    let (o, r) := r.step s
    let (os, r) := r.run rest
    (o :: os, r)

end PoolRun

/-- what a fetch brought about -/
structure FetchOutcome where
  result : Except Failure Snapshot
  calls : List GitHubCall
  pool : Pool

/-- accounts fetched one after the other -/
def fetchAll (w : GitHubWorld) : List String → List FetchOutcome × GitHubWorld
  | [] => ([], w)
  | username :: rest =>
    let before := w.calls.length
    let (result, w) := w.runOne (fetchAccount w.tokens username)
    let (os, w') := fetchAll w rest
    (⟨result, w.calls.drop before, w.pool⟩ :: os, w')

end AccountStats.Scenario
