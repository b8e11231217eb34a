import AccountStats.Cache.Memory
/-
A cache in scripted surroundings: the one in the process on a clock that stands still, none, or one that always fails.
-/
namespace AccountStats.Scenario

open AccountStats.Cache

inductive CacheKind where
  | memory
  /-- keeps nothing -/
  | null
  /-- fails to read and to write -/
  | failing
deriving DecidableEq, Repr

structure ScriptedCache where
  kind : CacheKind
  slots : Memory
deriving DecidableEq, Repr

namespace ScriptedCache

def empty (kind : CacheKind) : ScriptedCache := ⟨kind, .empty⟩

/-- the failure of the cache that always fails -/
def down : CacheError := .operation "down"

def get (c : ScriptedCache) (username : String) : Except CacheError (Option Entry) × ScriptedCache :=
  match c.kind with
  | .memory =>
    let (e, slots) := c.slots.get 0 username
    (.ok e, { c with slots })
  | .null => (.ok none, c)
  | .failing => (.error down, c)

def set (c : ScriptedCache) (username : String) (e : Entry) (ttl : Nat) : Except CacheError Unit × ScriptedCache :=
  match c.kind with
  | .memory => (.ok (), { c with slots := c.slots.set 0 username e ttl })
  | .null => (.ok (), c)
  | .failing => (.error down, c)

def delete (c : ScriptedCache) (username : String) : Except CacheError Unit × ScriptedCache :=
  (.ok (), { c with slots := c.slots.delete username })

/-- whether the cache says that it works -/
def healthy (c : ScriptedCache) : Bool := c.kind != .failing

def purge (c : ScriptedCache) : Nat × ScriptedCache :=
  let (n, slots) := c.slots.purge 0
  (n, { c with slots })

end ScriptedCache

/-! ## Steps -/

inductive CacheStep where
  | get (username : String)
  | set (username : String) (entry : Entry) (ttl : Nat)
  | delete (username : String)
  | purge
  | health
deriving DecidableEq, Repr

inductive CacheResult where
  | found (entry : Option Entry)
  | purged (n : Nat)
  | health (ok : Bool)
  | failed (error : CacheError)
  | nothing
deriving DecidableEq, Repr

namespace ScriptedCache

def step (c : ScriptedCache) : CacheStep → CacheResult × ScriptedCache
  | .get u =>
    match c.get u with
    | (.ok e, c) => (.found e, c)
    | (.error err, c) => (.failed err, c)
  | .set u e ttl =>
    match c.set u e ttl with
    | (.ok (), c) => (.nothing, c)
    | (.error err, c) => (.failed err, c)
  | .delete u => (.nothing, (c.delete u).2)
  | .purge =>
    let (n, c) := c.purge
    (.purged n, c)
  | .health => (.health c.healthy, c)

/-- the results of steps, each with the number of slots after it -/
def run (c : ScriptedCache) : List CacheStep → List (CacheResult × Nat)
  | [] => []
  | s :: rest =>
    let (r, c) := c.step s
    (r, c.slots.size) :: c.run rest

end ScriptedCache

end AccountStats.Scenario
